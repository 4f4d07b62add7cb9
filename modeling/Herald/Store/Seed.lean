import Herald.Json.Reader
import Herald.Store.Basic

/-!
# Herald.Store.Seed

Filling a store from a JSON text.

* `Seed`: a template with its scope and channel; in JSON form one object with the members of the
  template beside `scope` and `channel`.
* `Store.ofSeeds`: the store of some seeds, none if one of them is refused.
* `Store.ofSeedText`: the same for the text of a JSON array.
-/

namespace Herald

structure Seed where
  scope : Scope
  channel : Channel
  template : Template
  deriving DecidableEq, Repr

namespace Seed

def toJson (s : Seed) : Json :=
  .obj ([("scope", s.scope.toJson), ("channel", s.channel.toJson)] ++ s.template.members)

/-- The seed in JSON form, in a text where `depth` levels of nesting are left. As unknown members
are told apart only when all are known, every member has to be sound. -/
def ofJson? (depth : Nat) : Json → Option Seed
  | .obj members => do
    let own ← Json.Record.ofMembers? ["scope", "channel"] members
    let rest := members.filter fun m => !(["scope", "channel"].contains m.1)
    if depth = 0 || !Json.soundMembers (depth - 1) rest then none
    else
      let scope ← own.required "scope" (Scope.ofJson? (depth - 1))
      let channel ← own.required "channel" Channel.ofJson?
      let template ← (Json.Record.ofMembers? Template.fieldNames rest).bind Template.ofRecord?
      return { scope, channel, template }
  | _ => none

end Seed

namespace Store

/-- Adds seeds one after another, up to the first that is refused. -/
def addSeeds (s : Store) (seeds : List Seed) : Except StoreError Store :=
  seeds.foldlM (fun s seed => s.create seed.scope seed.channel seed.template) s

def ofSeeds (seeds : List Seed) : Except StoreError Store := empty.addSeeds seeds

def readSeeds? (text : String) : Option (List Seed) := do
  (← Json.read? text).list? (Seed.ofJson? (Json.maxDepth - 1))

def ofSeedText (text : String) : Except StoreError Store :=
  match readSeeds? text with
  | some seeds => ofSeeds seeds
  | none => .error (.data "the text is no list of seeds")

end Store

end Herald
