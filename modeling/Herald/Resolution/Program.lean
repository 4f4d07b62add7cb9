import Herald.Cache.Tier
import Herald.Error
import Herald.Template.Scope

/-!
# Herald.Resolution.Program

Lookups as programs that ask their surroundings.

* `Request`: one step of a lookup: to see or fill a cache, to read the store, to ask the directory,
  to let something be observed.
* `Program`: a course of requests that ends in a value.
* `Program.run`: a program under surroundings that answer each request.
* `Lookup`: a program that may fail.

A request is the grain at which courses of several lookups may be interleaved.
-/

namespace Herald

inductive Request where
  | generation (tier : Tier)
  | lookup (tier : Tier) (key : tier.Key)
  /-- Fills a cache, unless its generation has changed. -/
  | fill (tier : Tier) (key : tier.Key) (value : tier.Value) (generation : Nat)
  | getTemplate (scope : Scope) (path locale : String)
  | listTemplates (scope : Scope) (path : String)
  | listTemplateTypes (path tenant : String)
  | tenantId (domain : String)
  | organizationOf (tenant : String)
  | note (o : Observation)

abbrev Request.Answer : Request → Type
  | generation _ => Nat
  | lookup tier _ => Option tier.Value
  | fill .. => Bool
  | getTemplate .. => Except StoreError (Option Template)
  | listTemplates .. => Except StoreError (List Template)
  | listTemplateTypes .. => Except StoreError (List String)
  | tenantId _ => Except EngineError (Option String)
  | organizationOf _ => Except EngineError (Option String)
  | note _ => Unit

inductive Program (α : Type) : Type where
  | done (a : α)
  | ask (r : Request) (next : r.Answer → Program α)

namespace Program

variable {α β : Type}

def andThen : Program α → (α → Program β) → Program β
  | done a, f => f a
  | ask r next, f => ask r fun x => andThen (next x) f

instance : Monad Program where
  pure := done
  bind := andThen

theorem andThen_done (p : Program α) : p.andThen done = p := by
  induction p with
  | done a => rfl
  | ask r next ih => simp only [andThen]; congr; funext x; exact ih x

theorem andThen_assoc {γ : Type} (p : Program α) (f : α → Program β) (g : β → Program γ) :
    (p.andThen f).andThen g = p.andThen fun a => (f a).andThen g := by
  induction p with
  | done a => rfl
  | ask r next ih => simp only [andThen]; congr; funext x; exact ih x

def request (r : Request) : Program r.Answer := ask r done

def note (o : Observation) : Program Unit := request (.note o)

/-- Lets some things be observed, one after another. -/
def notes : List Observation → Program Unit
  | [] => done ()
  | o :: os => note o >>= fun _ => notes os

/-- Runs a program. `answer` says how the surroundings answer a request, how they change by it, and
what is observed of it. -/
def run {σ : Type} (answer : (r : Request) → σ → Reply σ r.Answer) :
    Program α → σ → Reply σ α
  | done a, s => ⟨a, s, []⟩
  | ask r next, s =>
    let first := answer r s
    let rest := run answer (next first.answer) first.state
    ⟨rest.answer, rest.state, first.notes ++ rest.notes⟩

end Program

abbrev Lookup (α : Type) := ExceptT EngineError Program α

namespace Lookup

variable {α : Type}

def request (r : Request) : Lookup r.Answer := ExceptT.lift (Program.request r)

def note (o : Observation) : Lookup Unit := ExceptT.lift (Program.note o)

/-- A call of the store. It is counted, its time is taken, and its failure is reported. -/
def callStore (operation : String) (call : Program (Except StoreError α)) : Lookup α := do
  note (.statistic .storeQueries)
  let result ← ExceptT.lift call
  note (.timed operation)
  match result with
  | .ok a => return a
  | .error e =>
    note (.counted .storeErrors operation 1)
    note (.log .error "Template store operation failed"
      [("operation", operation), ("error", e.message)])
    throw (.store e)

def ofExcept (call : Program (Except EngineError α)) : Lookup α := ExceptT.mk call

/-- A course within a span. The span ends whether or not the course fails. -/
def inSpan (name : String) (l : Lookup α) : Lookup α := do
  note (.spanOpened name)
  let result ← ExceptT.lift l.run
  note .spanClosed
  ofExcept (.done result)

end Lookup

end Herald
