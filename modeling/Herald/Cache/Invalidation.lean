import Herald.Cache.Tier
import Herald.Channel.Parse
import Herald.Template.Scope

/-!
# Herald.Cache.Invalidation

Which cached entries a write to the store puts in doubt.

* `Change`: a write, told by its scope, its channel and the type of the template.
* `Target`: some keys of one tier.
* `Change.targets`, `Target.ofTenant`, `Target.everything`: what is removed, tier by tier.
* `Caches.sweep`: removing targets; `Caches.apply`: removing those of a change.
-/

namespace Herald

structure Change where
  scope : Scope
  channel : Channel
  templateType : String
  deriving DecidableEq, Repr

def Change.ofPath (scope : Scope) (path : String) : Except EngineError Change := do
  let channel ← Channel.ofPath path
  match channel.below? path with
  | some templateType =>
    if templateType = "" || templateType.toList.contains '/' then
      .error (.invalidTemplate ("No template type in path " ++ path))
    else return ⟨scope, channel, templateType⟩
  | none => .error (.invalidTemplate ("No template type in path " ++ path))

structure Target where
  tier : Tier
  selects : tier.Key → Bool

namespace Target

def types (p : TypeListKey → Bool) : Target := ⟨.types, p⟩

def apps (p : AppListKey → Bool) : Target := ⟨.apps, p⟩

def resolved (p : TemplateKey → Bool) : Target := ⟨.resolved, p⟩

def orgs (p : OrgListKey → Bool) : Target := ⟨.orgs, p⟩

def ofTenant (tenant : String) : List Target :=
  [types (·.tenant = tenant), apps (·.tenant = tenant), resolved (·.tenant = tenant)]

def everything : List Target :=
  [types fun _ => true, apps fun _ => true, resolved fun _ => true, orgs fun _ => true]

end Target

/-- What a write puts in doubt. Which tenants belong to an organization is not known here, so its
defaults concern the lookups of all tenants. -/
def Change.targets (c : Change) : List Target :=
  match c.scope with
  | .tenant tenant =>
    [.types (· = ⟨tenant, c.channel⟩),
      .resolved fun k =>
        k.tenant = tenant && k.channel = c.channel && k.templateType = c.templateType]
  | .application tenant application =>
    [.apps (· = ⟨tenant, application, c.channel⟩),
      .resolved fun k =>
        k.tenant = tenant && k.application = some application && k.channel = c.channel &&
          k.templateType = c.templateType]
  | .organization organization application =>
    [.orgs (· = ⟨organization, application, c.channel⟩),
      .resolved fun k => k.channel = c.channel && k.templateType = c.templateType]

namespace Caches

/-- Removes the entries of the targets, one target after another, and says how many there were. -/
def sweep (c : Caches) : List Target → Reply Caches Nat
  | [] => ⟨0, c, []⟩
  | t :: ts =>
    let first := c.onTier t.tier (·.sweep t.selects)
    let rest := sweep first.state ts
    ⟨first.answer + rest.answer, rest.state, first.notes ++ rest.notes⟩

def apply (c : Caches) (change : Change) : Reply Caches Nat :=
  let r := c.sweep change.targets
  ⟨r.answer, r.state,
    r.notes ++
      [.log .info "Template caches invalidated"
        [("scope", change.scope.display), ("channel", change.channel.name),
          ("template_type", change.templateType), ("removed", toString r.answer)]]⟩

def invalidateTenant (c : Caches) (tenant : String) : Reply Caches Nat :=
  c.sweep (Target.ofTenant tenant)

def clearAll (c : Caches) : Reply Caches Nat := c.sweep Target.everything

end Caches

end Herald
