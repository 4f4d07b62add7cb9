import Herald.Json.Basic

/-!
# Herald.Json.Record

Structures in JSON form.

A structure is an object, or an array of its fields in their fixed order. In an object the order of
the members means nothing, members with unknown names are skipped, and a known name may stand only
once. An array holds no more items than there are fields.

* `Record.read?`: the fields that a value gives.
* `required`, `withDefault`, `optional`, `nullable`: one field, by what its absence means.
-/

namespace Herald.Json

/-- The fields that a value gives, and whether it gives them by position. -/
structure Record where
  positional : Bool
  fields : List (String × Json)

namespace Record

def ofMembers? (names : List String) (members : List (String × Json)) : Option Record :=
  let known := members.filter fun m => names.contains m.1
  if (known.map Prod.fst).Nodup then some ⟨false, known⟩ else none

def read? (names : List String) : Json → Option Record
  | .obj members => ofMembers? names members
  | .arr items => if items.length ≤ names.length then some ⟨true, names.zip items⟩ else none
  | _ => none

def get? (r : Record) (name : String) : Option Json := r.fields.lookup name

def required {α : Type} (r : Record) (name : String) (decode : Json → Option α) : Option α :=
  (r.get? name).bind decode

def withDefault {α : Type} (r : Record) (name : String) (default : α) (decode : Json → Option α) :
    Option α :=
  match r.get? name with
  | none => some default
  | some v => decode v

/-- A field that may be missing or `null`. -/
def optional {α : Type} (r : Record) (name : String) (decode : Json → Option α) :
    Option (Option α) :=
  r.withDefault name none (nullable? decode)

/-- A field that may be `null`, and missing in an object. -/
def nullable {α : Type} (r : Record) (name : String) (decode : Json → Option α) :
    Option (Option α) :=
  match r.get? name with
  | none => if r.positional then none else some none
  | some v => nullable? decode v

end Record

end Herald.Json
