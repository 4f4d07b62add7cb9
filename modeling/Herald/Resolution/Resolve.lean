import Herald.Locale
import Herald.Resolution.Program

/-!
# Herald.Resolution.Resolve

Finding the template of a notification.

* `Precedence`: whose template counts first.
* `applicationTemplates`, `organizationTemplates`, `templateTypes`: lists, read through their
  caches.
* `probe`: the template that one level has for a key in a locale.
* `resolve`: the first template found, at the requested locale and then at the default one.
-/

namespace Herald

inductive Precedence where
  | tenant
  | application
  | organization
  deriving DecidableEq, Repr

namespace Precedence

def order : List Precedence := [tenant, application, organization]

def name : Precedence → String
  | tenant => "tenant"
  | application => "application"
  | organization => "organization"

end Precedence

namespace Resolution

/-- The value of a key in a cache, read by `read` if it is missing and then filled in, unless the
cache was invalidated meanwhile. -/
def cached (tier : Tier) (key : tier.Key) (read : Lookup tier.Value) : Lookup tier.Value := do
  let generation ← Lookup.request (.generation tier)
  match ← Lookup.request (.lookup tier key) with
  | some value => return value
  | none =>
    let value ← read
    let _ ← Lookup.request (.fill tier key value generation)
    return value

def applicationTemplates (tenant application : String) (channel : Channel) :
    Lookup (List Template) :=
  cached .apps ⟨tenant, application, channel⟩ <|
    Lookup.callStore "list_templates" <|
      .request (.listTemplates (.application tenant application) channel.basePath)

/-- The templates of an organization, for one application or for all. -/
def organizationTemplates (organization : String) (application : Option String)
    (channel : Channel) : Lookup (List Template) :=
  cached .orgs ⟨organization, application, channel⟩ <|
    Lookup.callStore "list_templates" <|
      .request (.listTemplates (.organization organization application) channel.basePath)

def templateTypes (tenant : String) (channel : Channel) : Lookup (List String) :=
  cached .types ⟨tenant, channel⟩ <|
    Lookup.callStore "list_template_types" <|
      .request (.listTemplateTypes channel.basePath tenant)

/-- The types of an application's templates, in order, each once. -/
def applicationTemplateTypes (tenant application : String) (channel : Channel) :
    Lookup (List String) := do
  let templates ← applicationTemplates tenant application channel
  return Ordered.distinct (templates.map Template.templateType)

def find? (templates : List Template) (templateType locale : String) : Option Template :=
  templates.find? fun t => t.templateType = templateType && t.locale = locale

def probe (level : Precedence) (key : TemplateKey) (organization : Option String)
    (locale : String) : Lookup (Option Template) :=
  match level with
  | .tenant =>
    Lookup.callStore "get_template" (.request (.getTemplate (.tenant key.tenant) key.path locale))
  | .application =>
    match key.application with
    | none => return none
    | some application => do
      let templates ← applicationTemplates key.tenant application key.channel
      return find? templates key.templateType locale
  | .organization =>
    match organization with
    | none => return none
    | some organization => do
      if key.application.isSome then
        let own ← organizationTemplates organization key.application key.channel
        if let some t := find? own key.templateType locale then return some t
      let shared ← organizationTemplates organization none key.channel
      return find? shared key.templateType locale

/-- What is done with a template that was found: an invalid one is a fault of the store, a valid
one is reported and its content type completed. -/
def accept (key : TemplateKey) (level : Precedence) (locale : String) (t : Template) :
    Lookup Template := do
  if let some defect := t.defect? then
    let reason := (EngineError.invalidTemplate defect.message).message
    Lookup.note (.counted .storeErrors "validate" 1)
    Lookup.note (.log .error "Template store returned an invalid template"
      [("key", key.display), ("tier", level.name), ("locale", locale), ("error", reason)])
    throw (.store (.corrupt key.path reason))
  if locale ≠ key.locale then
    Lookup.note (.statistic .localeFallbacks)
    Lookup.note (.counted .localeFallbacks "" 1)
    Lookup.note (.log .warn "Requested locale not found, using default locale"
      [("key", key.display), ("fallback_locale", locale)])
  Lookup.note (.counted .resolutions level.name 1)
  Lookup.note (.attribute (.tier level.name))
  Lookup.note (.log .debug "Resolved template"
    [("key", key.display), ("tier", level.name), ("locale", locale)])
  return t.normalized

/-- The locales to look in: the requested one, then the default one if it is another. -/
def localesFor (locales : Locales) (key : TemplateKey) : List String :=
  if locales.isDefault key.locale then [key.locale] else [key.locale, locales.default]

/-- All levels in all locales of a key, in the order in which they are looked at. -/
def probes (locales : Locales) (key : TemplateKey) : List (String × Precedence) :=
  (localesFor locales key).flatMap fun locale => Precedence.order.map (locale, ·)

/-- Goes through levels and locales up to the first template. The organization of the tenant is
asked for when it is first needed; `known` holds it from then on. -/
def search (key : TemplateKey) (known : Option (Option String)) :
    List (String × Precedence) → Lookup (Option Template)
  | [] => return none
  | (locale, level) :: rest => do
    let known ← match level, known with
      | .organization, none => do
        let organization ← Lookup.ofExcept (.request (.organizationOf key.tenant))
        pure (some organization)
      | _, known => pure known
    match ← probe level key known.join locale with
    | some t => some <$> accept key level locale t
    | none => search key known rest

/-- What is reported of the end of a search that began without a cached answer. -/
def conclude (key : TemplateKey) (generation : Nat) :
    Except EngineError (Option Template) → Lookup Template
  | .ok (some t) => do
    let _ ← Lookup.request (.fill .resolved key t generation)
    return t
  | .ok none => do
    Lookup.note (.statistic .notFound)
    Lookup.note (.counted .resolutions "not_found" 1)
    Lookup.note (.log .debug "No template at any tier or locale" [("key", key.display)])
    throw (.notFound key.tenant key.channel key.templateType key.locale)
  | .error e => do
    Lookup.note (.counted .resolutions "error" 1)
    Lookup.note (.log .error "Template resolution failed"
      [("key", key.display), ("error", e.message)])
    throw e

def resolveKey (locales : Locales) (key : TemplateKey) : Lookup Template := do
  let generation ← Lookup.request (.generation .resolved)
  match ← Lookup.request (.lookup .resolved key) with
  | some t =>
    Lookup.note (.statistic .cacheHits)
    Lookup.note (.counted .resolutions "cache" 1)
    Lookup.note (.log .debug "Resolved template from cache" [("key", key.display)])
    return t
  | none =>
    let found ← ExceptT.lift (search key none (probes locales key)).run
    conclude key generation found

def keyFor (locales : Locales) (tenant : String) (application : Option String)
    (channel : Channel) (templateType locale : String) : TemplateKey :=
  ⟨tenant, application, channel, templateType, locales.normalize locale⟩

/-- What is observed at the start of a lookup. A locale that cannot be made out is complained of,
unless it is empty. -/
def openingNotes (locales : Locales) (key : TemplateKey) (locale : String) : List Observation :=
  [.statistic .lookups]
  ++ (if (Locale.canonicalize? locale).isNone && locale ≠ "" then
        [.log .warn "Unparseable locale, using default"
          [("raw", locale), ("default", locales.default)]]
      else [])
  ++ [.attribute (.tenant key.tenant), .attribute (.channel key.channel),
      .attribute (.templateType key.templateType), .attribute (.locale key.locale)]
  ++ (key.application.map fun a => Observation.attribute (.application a)).toList

/-- A lookup: the template of a tenant, an application or none, a channel, a type and a locale in
any form. -/
def resolve (locales : Locales) (tenant : String) (application : Option String)
    (channel : Channel) (templateType locale : String) : Lookup Template :=
  Lookup.inSpan "resolver.resolve" do
    let key := keyFor locales tenant application channel templateType locale
    ExceptT.lift (Program.notes (openingNotes locales key locale))
    resolveKey locales key

end Resolution

end Herald
