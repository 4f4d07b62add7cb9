import Herald.Channel.Basic
import Herald.Number.Power

/-!
# Herald.Observation

What an operation lets be seen of its course.

* `Observation`: a counter that moves, a finished store call, a statistic, a log event, the bounds
  and attributes of a span.
* `Reply`: the answer of an operation, the state it leaves, and its observations in order.
* `Span.finished`: the spans of a course, in the order in which they end.
-/

namespace Herald

inductive Counter where
  | cacheHits
  | cacheMisses
  | cacheInvalidations
  | resolutions
  | localeFallbacks
  | storeErrors
  | renders
  | renderFailures
  deriving DecidableEq, Repr

inductive Statistic where
  | lookups
  | cacheHits
  | storeQueries
  | localeFallbacks
  | notFound
  deriving DecidableEq, Repr

inductive Level where
  | debug
  | info
  | warn
  | error
  deriving DecidableEq, Repr

def Level.name : Level → String
  | debug => "DEBUG"
  | info => "INFO"
  | warn => "WARN"
  | error => "ERROR"

structure LogEvent where
  level : Level
  message : String
  fields : List (String × String)
  deriving DecidableEq, Repr

inductive AttributeValue where
  | text (s : String)
  | count (n : Int)
  deriving DecidableEq, Repr

structure Attribute where
  key : String
  value : AttributeValue
  deriving DecidableEq, Repr

namespace Attribute

def tenant (id : String) : Attribute := ⟨"tenant.id", .text id⟩

def application (id : String) : Attribute := ⟨"application.id", .text id⟩

def channel (c : Channel) : Attribute := ⟨"notification.channel", .text c.name⟩

def templateType (t : String) : Attribute := ⟨"template.type", .text t⟩

def locale (l : String) : Attribute := ⟨"template.locale", .text l⟩

def tier (name : String) : Attribute := ⟨"template.tier", .text name⟩

def notification (id : String) : Attribute := ⟨"notification.id", .text id⟩

def placeholderCount (n : Nat) : Attribute :=
  ⟨"template.placeholder_count", .count (Number.toSigned n)⟩

end Attribute

inductive Observation where
  | counted (counter : Counter) (label : String) (amount : Nat)
  | timed (operation : String)
  | statistic (s : Statistic)
  | logged (event : LogEvent)
  | spanOpened (name : String)
  | attribute (a : Attribute)
  | spanClosed
  deriving DecidableEq, Repr

namespace Observation

def log (level : Level) (message : String) (fields : List (String × String)) : Observation :=
  .logged ⟨level, message, fields⟩

def event? : Observation → Option LogEvent
  | logged e => some e
  | _ => none

/-- How often a statistic is counted in a course. -/
def statisticCount (s : Statistic) (os : List Observation) : Nat :=
  os.countP (· = .statistic s)

end Observation

/-- The answer of an operation, the state it leaves, and its observations. -/
structure Reply (σ α : Type) where
  answer : α
  state : σ
  notes : List Observation

structure Span where
  name : String
  attributes : List Attribute
  deriving DecidableEq, Repr

namespace Span

structure Trace where
  finished : List Span
  opened : List Span

def Trace.step (t : Trace) : Observation → Trace
  | .spanOpened name => { t with opened := ⟨name, []⟩ :: t.opened }
  | .attribute a =>
    match t.opened with
    | [] => t
    | s :: rest => { t with opened := { s with attributes := s.attributes ++ [a] } :: rest }
  | .spanClosed =>
    match t.opened with
    | [] => t
    | s :: rest => ⟨t.finished ++ [s], rest⟩
  | _ => t

def finished (os : List Observation) : List Span := (os.foldl Trace.step ⟨[], []⟩).finished

end Span

end Herald
