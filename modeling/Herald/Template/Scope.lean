import Herald.Json.Record

/-!
# Herald.Template.Scope

The levels at which templates are stored.

* `Scope`: a tenant's own templates, the defaults of an application of a tenant, the defaults of an
  organization, for all applications or for one.
* `Scope.display`: a scope in short form.
* `Scope.toJson`, `ofJson?`: the JSON form, in which the member `level` tells the kind.
-/

namespace Herald

inductive Scope where
  | tenant (tenant : String)
  | application (tenant application : String)
  | organization (organization : String) (application : Option String)
  deriving DecidableEq, Repr

namespace Scope

def display : Scope → String
  | tenant t => "tenant:" ++ t
  | application t a => "tenant:" ++ t ++ "/app:" ++ a
  | organization o (some a) => "org:" ++ o ++ "/app:" ++ a
  | organization o none => "org:" ++ o

def toJson : Scope → Json
  | tenant t => .obj [("level", .str "tenant"), ("tenant_id", .str t)]
  | application t a =>
    .obj [("level", .str "application"), ("tenant_id", .str t), ("application_id", .str a)]
  | organization o a =>
    .obj ([("level", .str "organization"), ("organization_id", .str o)]
      ++ Json.member? "application_id" a)

/-- The scope of a level whose fields are read by `fields` from their names. -/
def ofLevel? (level : String) (fields : List String → Option Json.Record) : Option Scope :=
  match level with
  | "tenant" => do
    let r ← fields ["tenant_id"]
    return .tenant (← r.required "tenant_id" Json.string?)
  | "application" => do
    let r ← fields ["tenant_id", "application_id"]
    return .application (← r.required "tenant_id" Json.string?)
      (← r.required "application_id" Json.string?)
  | "organization" => do
    let r ← fields ["organization_id", "application_id"]
    return .organization (← r.required "organization_id" Json.string?)
      (← r.optional "application_id" Json.string?)
  | _ => none

/-- The scope in JSON form, in a text where `depth` levels of nesting are left: an object with a
member `level`, or an array that starts with the level. As the level may stand last, the whole value
has to be sound. -/
def ofJson? (depth : Nat) (v : Json) : Option Scope :=
  if !v.sound depth then none
  else
    match v with
    | .obj members =>
      match members.filter (·.1 = "level") with
      | [(_, .str level)] =>
        ofLevel? level fun names =>
          Json.Record.ofMembers? names (members.filter (·.1 ≠ "level"))
      | _ => none
    | .arr (.str level :: items) =>
      ofLevel? level fun names => Json.Record.read? names (.arr items)
    | _ => none

end Scope

end Herald
