import Herald.Json.Basic
import Herald.Number.Layout
import Herald.Settings.Path
import Herald.Text.Lowercase
import Herald.Text.Split

/-!
# Herald.Settings.Value

Settings before they have a form: what the sources give, laid over each other.

* `Settings.Value`: a value of a source.
* `Value.overlay`, `Value.setPath`: laying a value over another one, or over a part of it.
* `boolean?`, `natural?`, `double?`, `text?`: a value in the form that a setting needs.
-/

namespace Herald.Settings

open Number

inductive Value where
  | nothing
  | boolean (b : Bool)
  | integer (i : Int)
  | double (d : Double)
  | text (s : String)
  | list (items : List Value)
  | table (members : List (String × Value))
  deriving Inhabited, Repr

namespace Value

/-- The members of a table; nothing else has any. -/
def members : Option Value → List (String × Value)
  | some (.table ms) => ms
  | _ => []

/-- The form of a name under which it is kept. Case does not matter. -/
def key (name : String) : String := String.ofList (Text.lowercase name.toList)

mutual

/-- Lays a value over another one. Tables are laid over each other member by member; an empty table
changes nothing. Any other value takes the place of the old one. -/
def overlay (old : Option Value) : Value → Value
  | .table [] => old.getD (.table [])
  | .table (m :: ms) => .table (overlayMembers (members old) (m :: ms))
  | .nothing => .nothing
  | .boolean b => .boolean b
  | .integer i => .integer i
  | .double d => .double d
  | .text s => .text s
  | .list vs => .list vs

def overlayMembers (old : List (String × Value)) :
    List (String × Value) → List (String × Value)
  | [] => old
  | (k, v) :: ms =>
    overlayMembers (Ordered.insert (key k) (overlay (old.lookup (key k)) v) old) ms

end

/-- The items of a list; nothing else has any. -/
def items : Option Value → List Value
  | some (.list vs) => vs
  | _ => []

def maxItems : Nat := twoTo 25

/-- Which of so many items stands at a place. There are no items before the first one, nor beyond
all bounds. -/
def itemIndex? (length : Nat) (place : Int) : Option Nat :=
  if 0 ≤ place then if place < maxItems then some place.toNat else none
  else if place.natAbs ≤ length then some (length - place.natAbs)
  else none

/-- Puts an item into a list, behind empty ones if the list is shorter. -/
def setItem (vs : List Value) (i : Nat) (v : Value) : List Value :=
  (vs ++ List.replicate (i + 1 - vs.length) nothing).set i v

/-- Lays a value over the one at a path, and puts it in the place of an item. What stands on the way
becomes a table or a list. There is no result if the path leads where no list has an item. -/
def setPath (old : Option Value) : List Step → Value → Option Value
  | [], v => some (overlay old v)
  | .member name :: path, v => do
    let ms := members old
    let k := key name
    return .table (Ordered.insert k (← setPath (ms.lookup k) path v) ms)
  | .item place :: path, v => do
    let vs := items old
    let i ← itemIndex? vs.length place
    return .list (setItem vs i (← if path = [] then some v else setPath vs[i]? path v))

/-- The value of a JSON value. Whole numbers beyond 64 bits with a sign are doubles. -/
def ofNumber (i : Int) : Value :=
  if fitsSigned i then .integer i else .double (Double.ofInt i)

mutual

def ofJson : Json → Value
  | .null | .malformed => .nothing
  | .bool b => .boolean b
  | .int i => ofNumber i
  | .real d => .double d
  | .str s => .text s
  | .arr items => .list (ofItems items)
  | .obj ms => .table (Ordered.insertAll [] (ofMembers ms))

def ofItems : List Json → List Value
  | [] => []
  | v :: vs => ofJson v :: ofItems vs

def ofMembers : List (String × Json) → List (String × Value)
  | [] => []
  | (k, v) :: ms => (k, ofJson v) :: ofMembers ms

end

def yesNo? : String → Option Bool
  | "true" | "on" | "yes" => some true
  | "false" | "off" | "no" => some false
  | _ => none

def lower (s : String) : String := String.ofList (s.toList.map Char.toLower)

/-- A truth value. Numbers other than zero are true. -/
def boolean? : Value → Option Bool
  | .boolean b => some b
  | .integer i => some (i ≠ 0)
  | .double d => some !d.isZero
  | .text s =>
    match lower s with
    | "1" => some true
    | "0" => some false
    | s => yesNo? s
  | _ => none

/-- A natural number of 64 bits. Doubles are rounded. -/
def natural? : Value → Option Nat
  | .boolean b => some b.toNat
  | .integer i => if 0 ≤ i then some i.toNat else none
  | .double d => some (d.clampRound (wordLimit - 1))
  | .text s =>
    match yesNo? (lower s) with
    | some b => some b.toNat
    | none => readNat? s
  | _ => none

def double? : Value → Option Double
  | .boolean b => some (Double.ofNat b.toNat)
  | .integer i => some (Double.ofInt i)
  | .double d => some d
  | .text s =>
    match yesNo? (lower s) with
    | some b => some (Double.ofNat b.toNat)
    | none => readDouble? s
  | _ => none

/-- A text. Other plain values are written out. -/
def text? : Value → Option String
  | .boolean b => some (if b then "true" else "false")
  | .integer i => some (toString i)
  | .double d => some (d.text plain)
  | .text s => some s
  | _ => none

def optional? {α : Type} (decode : Value → Option α) : Value → Option (Option α)
  | .nothing => some none
  | v => (decode v).map some

def texts? : Value → Option (List (String × String))
  | .table ms => ms.mapM fun m => (text? m.2).map (m.1, ·)
  | _ => none

/-- The fields of a section: the members of a table, or the items of a list in their order. -/
def fields? (names : List String) : Value → Option (List (String × Value))
  | .table ms => some ms
  | .list vs => some (names.zip vs)
  | _ => none

end Value

def field {α : Type} (fields : List (String × Value)) (name : String) (default : α)
    (decode : Value → Option α) : Option α :=
  match fields.lookup name with
  | none => some default
  | some v => decode v

end Herald.Settings
