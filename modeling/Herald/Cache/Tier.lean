import Herald.Cache.Basic
import Herald.Template.Basic
import Herald.Template.Key

/-!
# Herald.Cache.Tier

The caches of a resolver.

* `Tier`: which caches there are, with `Tier.Key` and `Tier.Value`.
* `Caches`: one cache for each tier.
-/

namespace Herald

structure TypeListKey where
  tenant : String
  channel : Channel
  deriving DecidableEq, Repr

structure AppListKey where
  tenant : String
  application : String
  channel : Channel
  deriving DecidableEq, Repr

structure OrgListKey where
  organization : String
  application : Option String
  channel : Channel
  deriving DecidableEq, Repr

inductive Tier where
  | types
  | apps
  | resolved
  | orgs
  deriving DecidableEq, Repr

namespace Tier

abbrev Key : Tier → Type
  | types => TypeListKey
  | apps => AppListKey
  | resolved => TemplateKey
  | orgs => OrgListKey

abbrev Value : Tier → Type
  | types => List String
  | apps => List Template
  | resolved => Template
  | orgs => List Template

instance : (t : Tier) → DecidableEq t.Key
  | types => inferInstanceAs (DecidableEq TypeListKey)
  | apps => inferInstanceAs (DecidableEq AppListKey)
  | resolved => inferInstanceAs (DecidableEq TemplateKey)
  | orgs => inferInstanceAs (DecidableEq OrgListKey)

def label : Tier → String
  | types => "template_types"
  | apps => "app_templates"
  | resolved => "resolved_template"
  | orgs => "org_templates"

def all : List Tier := [types, apps, resolved, orgs]

end Tier

structure Caches where
  types : Cache TypeListKey (List String)
  apps : Cache AppListKey (List Template)
  resolved : Cache TemplateKey Template
  orgs : Cache OrgListKey (List Template)

namespace Caches

def new (enabled : Bool) (lifetime : Option Nat) : Caches where
  types := .new Tier.types.label enabled lifetime
  apps := .new Tier.apps.label enabled lifetime
  resolved := .new Tier.resolved.label enabled lifetime
  orgs := .new Tier.orgs.label enabled lifetime

def tier (c : Caches) : (t : Tier) → Cache t.Key t.Value
  | .types => c.types
  | .apps => c.apps
  | .resolved => c.resolved
  | .orgs => c.orgs

def withTier (c : Caches) : (t : Tier) → Cache t.Key t.Value → Caches
  | .types, x => { c with types := x }
  | .apps, x => { c with apps := x }
  | .resolved, x => { c with resolved := x }
  | .orgs, x => { c with orgs := x }

def onTier (c : Caches) (t : Tier) {α : Type}
    (f : Cache t.Key t.Value → Reply (Cache t.Key t.Value) α) : Reply Caches α :=
  let r := f (c.tier t)
  ⟨r.answer, c.withTier t r.state, r.notes⟩

@[simp] theorem tier_withTier_self (c : Caches) (t : Tier) (x : Cache t.Key t.Value) :
    (c.withTier t x).tier t = x := by
  cases t <;> rfl

theorem tier_withTier_ne (c : Caches) {t u : Tier} (x : Cache t.Key t.Value) (h : u ≠ t) :
    (c.withTier t x).tier u = c.tier u := by
  cases t <;> cases u <;> first | rfl | exact absurd rfl h

end Caches

end Herald
