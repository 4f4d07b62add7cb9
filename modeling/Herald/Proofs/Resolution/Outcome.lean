import Herald.Resolution.Resolve
import Herald.Resolution.World

/-!
# Herald.Proofs.Resolution.Outcome

What a lookup comes to when the answers of its store and its directory stand still.

* `Host`: a store and a directory as what they answer.
* `Probe`, `Host.probes`: what a search looks at, in order: in each locale the tenant's row, the
  list of the application, and the lists of the organization, which is asked for once.
* `Host.outcome`: the first probe that does not miss decides.
* `Host.performed`: the probes up to that one.
* `Host.value`: what a key of any tier stands for; `Tier.lookup`: the lookup that finds it.
-/

namespace Herald

open Resolution

/-- What a store and a directory answer. -/
structure Host where
  getTemplate : Scope → String → String → Except StoreError (Option Template)
  listTemplates : Scope → String → Except StoreError (List Template)
  listTemplateTypes : String → String → Except StoreError (List String)
  tenantId : String → Except EngineError (Option String)
  organizationOf : String → Except EngineError (Option String)

/-- A store and a directory of this library. They never fail. -/
def Host.of (store : Store) (directory : Directory) : Host where
  getTemplate scope path locale := .ok (store.getTemplate scope path locale)
  listTemplates scope path := .ok (store.listTemplates scope path)
  listTemplateTypes path tenant := .ok (store.listTemplateTypes path tenant)
  tenantId domain := .ok (directory.tenantId domain)
  organizationOf tenant := .ok (directory.organizationOf tenant)

/-- Something that a search looks at. -/
inductive Probe where
  /-- The row of a scope in a locale. -/
  | row (scope : Scope) (locale : String)
  /-- The first template of the type and the locale in the list of a scope. -/
  | listed (scope : Scope) (locale : String)
  /-- The organization of the tenant. It is no template. -/
  | membership
  deriving DecidableEq, Repr

/-- The request that a probe stands for. -/
def Probe.request (key : TemplateKey) : Probe → Request
  | row scope locale => .getTemplate scope key.path locale
  | listed scope _ => .listTemplates scope key.channel.basePath
  | membership => .organizationOf key.tenant

/-- A template as a lookup hands it out, or the fault that an invalid one is. -/
def Template.accepted (t : Template) (key : TemplateKey) : Except EngineError Template :=
  match t.defect? with
  | none => .ok t.normalized
  | some d =>
    .error (.store (.corrupt key.path (EngineError.invalidTemplate d.message).message))

/-- What a probe decides: nothing if it misses. -/
def TemplateKey.verdict (key : TemplateKey) :
    Except EngineError (Option Template) → Option (Except EngineError Template)
  | .ok none => none
  | .ok (some t) => some (t.accepted key)
  | .error e => some (.error e)

/-- The lists of an organization, if there is one: that of the application, if there is one, before
the shared. -/
def TemplateKey.listsOf (key : TemplateKey) (organization : Option String) (locale : String) :
    List Probe :=
  match organization with
  | none => []
  | some o =>
    (key.application.map fun a => .listed (.organization o (some a)) locale).toList ++
      [.listed (.organization o none) locale]

/-- The fault of a lookup that finds nothing. -/
def TemplateKey.missing (key : TemplateKey) : EngineError :=
  .notFound key.tenant key.channel key.templateType key.locale

namespace Host

variable (h : Host)

/-- What a probe finds. -/
def look (key : TemplateKey) : Probe → Except EngineError (Option Template)
  | .row scope locale => (h.getTemplate scope key.path locale).mapError .store
  | .listed scope locale =>
    ((h.listTemplates scope key.channel.basePath).mapError .store).map
      (find? · key.templateType locale)
  | .membership => (h.organizationOf key.tenant).map fun _ => none

/-- The organization of a tenant, if it can be told. -/
def organization? (tenant : String) : Option String := (h.organizationOf tenant).toOption.join

/-- What is looked at in one locale. The directory is asked in the first one. -/
def probesIn (key : TemplateKey) (first : Bool) (locale : String) : List Probe :=
  [.row (.tenant key.tenant) locale] ++
    (key.application.map fun a => .listed (.application key.tenant a) locale).toList ++
    (if first then [.membership] else []) ++ key.listsOf (h.organization? key.tenant) locale

/-- All that a search may look at, in order. -/
def probes (key : TemplateKey) : List String → List Probe
  | [] => []
  | locale :: more => h.probesIn key true locale ++ more.flatMap (h.probesIn key false)

/-- What the first probe decides that does not miss. -/
def decided (key : TemplateKey) (ps : List Probe) : Option (Except EngineError Template) :=
  ps.findSome? fun p => key.verdict (h.look key p)

/-- What a search comes to. -/
def outcome (key : TemplateKey) (locales : List String) : Except EngineError Template :=
  (h.decided key (h.probes key locales)).getD (.error key.missing)

/-- The probes up to the first that does not miss. -/
def upToFirst (key : TemplateKey) (ps : List Probe) : List Probe :=
  ps.take (ps.findIdx (fun p => (key.verdict (h.look key p)).isSome) + 1)

/-- What a search looks at before it ends. -/
def performed (key : TemplateKey) (locales : List String) : List Probe :=
  h.upToFirst key (h.probes key locales)

end Host

/-- Where the templates of an application stand. -/
def AppListKey.scope (k : AppListKey) : Scope := .application k.tenant k.application

/-- Where the templates of an organization stand. -/
def OrgListKey.scope (k : OrgListKey) : Scope := .organization k.organization k.application

/-- What a key of a tier stands for. -/
def Host.value (h : Host) (locales : Locales) :
    (t : Tier) → t.Key → Except EngineError t.Value
  | .types, k => (h.listTemplateTypes k.channel.basePath k.tenant).mapError .store
  | .apps, k => (h.listTemplates k.scope k.channel.basePath).mapError .store
  | .resolved, k => h.outcome k (localesFor locales k)
  | .orgs, k => (h.listTemplates k.scope k.channel.basePath).mapError .store

/-- The lookup that finds what a key of a tier stands for. -/
def Tier.lookup (locales : Locales) : (t : Tier) → t.Key → Lookup t.Value
  | .types, k => templateTypes k.tenant k.channel
  | .apps, k => applicationTemplates k.tenant k.application k.channel
  | .resolved, k => resolveKey locales k
  | .orgs, k => organizationTemplates k.organization k.application k.channel

/-- What a key stands for in surroundings without what their caches hold. -/
def World.fresh (w : World) (locales : Locales) (t : Tier) (k : t.Key) :
    Except EngineError t.Value :=
  (World.perform (t.lookup locales k) { w with caches := .new false none }).answer

end Herald
