import Herald.Error
import Herald.Json.Writer

/-!
# Herald.Placeholders

The values of placeholders for one rendering. Each name has one value; a later one replaces an
earlier one, so that sources can be layered from the general to the special. They are listed in the
order of their names.

* `Placeholders.insert`, `merge`, `ofPairs`: building.
* `Placeholders.get?`: looking up.
* `Placeholders.ofProperties`: the values of a JSON object of any members.
-/

namespace Herald

@[ext] structure Placeholders where
  entries : List (String × String)
  sorted : Ordered.Sorted entries

namespace Placeholders

def empty : Placeholders := ⟨[], List.Pairwise.nil⟩

instance : Inhabited Placeholders := ⟨empty⟩

def get? (p : Placeholders) (name : String) : Option String := p.entries.lookup name

def contains (p : Placeholders) (name : String) : Bool := (p.get? name).isSome

def size (p : Placeholders) : Nat := p.entries.length

def isEmpty (p : Placeholders) : Bool := p.entries.isEmpty

def insert (p : Placeholders) (name value : String) : Placeholders :=
  ⟨Ordered.insert name value p.entries, Ordered.insert_sorted p.sorted⟩

/-- Gives names values, one after another. -/
def insertAll (p : Placeholders) (pairs : List (String × String)) : Placeholders :=
  ⟨Ordered.insertAll p.entries pairs, Ordered.insertAll_sorted p.sorted pairs⟩

def ofPairs (pairs : List (String × String)) : Placeholders := empty.insertAll pairs

/-- Lays `top` over the values. -/
def merge (p top : Placeholders) : Placeholders := p.insertAll top.entries

@[simp] theorem get?_empty (name : String) : empty.get? name = none := rfl

theorem get?_insert (p : Placeholders) (name value name' : String) :
    (p.insert name value).get? name' = if name' = name then some value else p.get? name' :=
  Ordered.lookup_insert name name' value p.entries

/-- The text that a JSON value puts in place of a placeholder: a string as it is, nothing for
`null`, and otherwise the JSON text with the members of objects in order. -/
def propertyText : Json → String
  | .str s => s
  | .null => ""
  | v => v.canonical.compact

def ofProperties : Json → Except EngineError Placeholders
  | .obj members => .ok (ofPairs (members.map fun m => (m.1, propertyText m.2)))
  | _ => .error (.invalidTemplate "Placeholder values must be a JSON object")

def ofJson? (v : Json) : Option Placeholders := (v.map? Json.string?).map ofPairs

def toJson (p : Placeholders) : Json := .obj (p.entries.map fun m => (m.1, .str m.2))

end Placeholders

end Herald
