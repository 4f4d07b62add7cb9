import Herald.Number.Double
import Herald.Ordered

/-!
# Herald.Json.Basic

JSON values.

* `Json`: a value with its members in the order of the text. Whole numbers of 64 bits are kept as
  integers, all other numbers as doubles.
* `Json.malformed`: a text that obeys the grammar and yet stands for nothing: a string with half of
  a surrogate pair, an object with such a name, a number beyond every double. It does no harm where
  it is skipped and is refused where it is used.
* `Json.sound`: the values that may be used as a whole.
* `Json.canonical`: names in order, of equal names the last.
-/

namespace Herald

open Number

inductive Json where
  | null
  | bool (b : Bool)
  | int (i : Int)
  | real (d : Double)
  | str (s : String)
  | arr (items : List Json)
  | obj (members : List (String × Json))
  | malformed
  deriving Inhabited, Repr

namespace Json

def maxDepth : Nat := 127

mutual

/-- Whether nothing in a value is malformed and it is nested no deeper than `depth`. -/
def sound : Nat → Json → Bool
  | _, .malformed => false
  | 0, .arr _ => false
  | 0, .obj _ => false
  | depth + 1, .arr items => soundItems depth items
  | depth + 1, .obj members => soundMembers depth members
  | _, _ => true

/-- `sound` for the items of an array. -/
def soundItems : Nat → List Json → Bool
  | _, [] => true
  | depth, v :: vs => sound depth v && soundItems depth vs

/-- `sound` for the members of an object. -/
def soundMembers : Nat → List (String × Json) → Bool
  | _, [] => true
  | depth, (_, v) :: vs => sound depth v && soundMembers depth vs

end

mutual

/-- The value with the members of every object in the order of their names, of equal names the last
one given. -/
def canonical : Json → Json
  | .arr items => .arr (canonicalItems items)
  | .obj members => .obj (canonicalMembers [] members)
  | v => v

/-- `canonical` for the items of an array. -/
def canonicalItems : List Json → List Json
  | [] => []
  | v :: vs => canonical v :: canonicalItems vs

/-- Puts members in order, after those of `done`. -/
def canonicalMembers (done : List (String × Json)) : List (String × Json) → List (String × Json)
  | [] => done
  | (k, v) :: ms => canonicalMembers (Ordered.insert k (canonical v) done) ms

end

def string? : Json → Option String
  | .str s => some s
  | _ => none

def bool? : Json → Option Bool
  | .bool b => some b
  | _ => none

/-- A natural number of 64 bits, if the value is one. -/
def nat? : Json → Option Nat
  | .int (.ofNat n) => some n
  | _ => none

def double? : Json → Option Double
  | .int i => some (Double.ofInt i)
  | .real d => some d
  | _ => none

/-- `null` or a value that `decode` reads. -/
def nullable? {α : Type} (decode : Json → Option α) : Json → Option (Option α)
  | .null => some none
  | v => (decode v).map some

/-- The items of an array, each read by `decode`. -/
def list? {α : Type} (decode : Json → Option α) : Json → Option (List α)
  | .arr items => items.mapM decode
  | _ => none

/-- The members of an object whose values `decode` reads. -/
def map? {α : Type} (decode : Json → Option α) : Json → Option (List (String × α))
  | .obj members => members.mapM fun m => (decode m.2).map (m.1, ·)
  | _ => none

/-- A text or `null`. -/
def ofText? : Option String → Json
  | some s => .str s
  | none => .null

def nat (n : Nat) : Json := .int n

def texts (ss : List String) : Json := .arr (ss.map .str)

def member? (name : String) : Option String → List (String × Json)
  | some s => [(name, .str s)]
  | none => []

end Json

end Herald
