import Herald.Number.Layout
import Herald.Observation

/-!
# Herald.Metrics

The metrics in exposition form.

* `Family`: a counter, or the histogram of the times that store calls take.
* `Family.exposition`: the help and type lines of all families, in the order of their names.
* `Sample`: a named value; `Observation.samples` says which samples an observation moves.
* `Totals.move`: moves samples; `Totals.movements`: by how much samples read differently.
-/

namespace Herald

open Number

inductive Family where
  | counter (c : Counter)
  | storeSeconds
  deriving DecidableEq, Repr

namespace Family

def lead : String := "notification_template_"

def name : Family → String
  | counter .cacheHits => "cache_hits_total"
  | counter .cacheMisses => "cache_misses_total"
  | counter .cacheInvalidations => "cache_invalidations_total"
  | counter .resolutions => "resolutions_total"
  | counter .localeFallbacks => "locale_fallbacks_total"
  | counter .storeErrors => "store_errors_total"
  | counter .renders => "renders_total"
  | counter .renderFailures => "render_failures_total"
  | storeSeconds => "store_operation_seconds"

def help : Family → String
  | counter .cacheHits => "Total cache hits"
  | counter .cacheMisses => "Total cache misses"
  | counter .cacheInvalidations => "Total cache entries invalidated"
  | counter .resolutions => "Total template resolutions by outcome"
  | counter .localeFallbacks => "Total resolutions that fell back to the default locale"
  | counter .storeErrors => "Total template store errors"
  | counter .renders => "Total notifications rendered"
  | counter .renderFailures => "Total notification render failures"
  | storeSeconds => "Template store operation latency in seconds"

def kind : Family → String
  | counter _ => "counter"
  | storeSeconds => "histogram"

def label? : Family → Option String
  | counter .cacheHits | counter .cacheMisses | counter .cacheInvalidations => some "tier"
  | counter .resolutions => some "outcome"
  | counter .localeFallbacks => none
  | counter .storeErrors | storeSeconds => some "operation"
  | counter .renders => some "channel"
  | counter .renderFailures => some "reason"

def all : List Family :=
  [.counter .cacheHits, .counter .cacheMisses, .counter .cacheInvalidations, .counter .resolutions,
    .counter .localeFallbacks, .storeSeconds, .counter .storeErrors, .counter .renders,
    .counter .renderFailures]

/-- The help and type lines of all families, in the order of their names. -/
def exposition : List String :=
  (Ordered.insertAll [] (all.map fun f => (f.name, f))).flatMap fun (name, f) =>
    ["# HELP " ++ lead ++ name ++ " " ++ f.help, "# TYPE " ++ lead ++ name ++ " " ++ f.kind]

end Family

structure Sample where
  key : String
  amount : Nat
  deriving DecidableEq, Repr

namespace Sample

/-- A label value with its quotes, backslashes and line ends escaped. -/
def escape (value : String) : String :=
  String.ofList <| value.toList.flatMap fun c =>
    if c = '\\' then ['\\', '\\'] else if c = '"' then ['\\', '"']
    else if c = '\n' then ['\\', 'n'] else [c]

def keyText (name : String) (labels : List (String × String)) : String :=
  if labels = [] then name
  else
    name ++ "\x7b" ++
      ",".intercalate (labels.map fun l => l.1 ++ "=\"" ++ escape l.2 ++ "\"") ++ "\x7d"

def counter (c : Counter) (label : String) (amount : Nat) : Sample :=
  let f := Family.counter c
  ⟨keyText f.name (f.label?.toList.map (·, label)), amount⟩

def timeCount (operation : String) : Sample :=
  ⟨keyText (Family.storeSeconds.name ++ "_count") [("operation", operation)], 1⟩

/-- The upper bounds of the buckets, in units of a tenth of a thousandth. -/
def bounds : List Nat := [5, 10, 50, 100, 500, 1000, 5000, 10000]

/-- One time taken: every bucket that is wide enough moves, and so does the count. -/
def latency (operation : String) (seconds : Double) : List Sample :=
  let bucket (bound : String) : Sample :=
    ⟨keyText (Family.storeSeconds.name ++ "_bucket") [("operation", operation), ("le", bound)], 1⟩
  let wide := (bounds.map fun b => Double.ofRatio false b 10000).filter (seconds.le ·)
  wide.map (fun b => bucket (b.text plain)) ++ [bucket "+Inf", timeCount operation]

abbrev Totals := List (String × Nat)

/-- Moves samples. A total has 64 bits and starts again from zero behind them. -/
def Totals.move (totals : Totals) (ss : List Sample) : Totals :=
  ss.foldl
    (fun totals s =>
      if s.amount = 0 then totals
      else
        Ordered.insert s.key (((totals.lookup s.key).getD 0 + s.amount) % wordLimit) totals)
    totals

def reading (total : Nat) : Int := (Double.ofNat total).truncate

/-- The difference of two readings, rounded to a double and kept within 64 bits with a sign. -/
def difference (before after : Nat) : Int :=
  let d := (Double.ofInt (reading after - reading before)).truncate
  max (-(signedLimit : Int)) (min d ((signedLimit : Int) - 1))

def Totals.movements (before after : Totals) : List (String × Int) :=
  after.filterMap fun (key, total) =>
    let d := difference ((before.lookup key).getD 0) total
    if d = 0 then none else some (key, d)

end Sample

def Observation.samples : Observation → List Sample
  | .counted c label amount => [Sample.counter c label amount]
  | .timed operation => [Sample.timeCount operation]
  | _ => []

end Herald
