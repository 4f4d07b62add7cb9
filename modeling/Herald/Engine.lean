import Herald.Notification.Render
import Herald.Resolution.Resolve
import Herald.Resolution.World
import Herald.Settings.Basic

/-!
# Herald.Engine

The engine: lookups and renderings under the settings of a deployment.

* `Engine.ofSettings`: the engine of some settings.
* `Engine.resolve`, `render`, `notify`: finding a template, rendering one, and both in turn.
* `Engine.listTemplateTypes`: the types that the tenant of a domain has.
* `World.ofSettings`: caches and a directory as the settings ask for them.
-/

namespace Herald

structure Engine where
  locales : Locales
  encoder : UrlEncoder
  deriving DecidableEq, Repr

/-- What is reported of a configured default locale that cannot be made out. -/
def Locales.startupNotes (configured : String) : List Observation :=
  if (Locale.canonicalize? configured).isSome then []
  else
    [.log .warn "Configured default locale is invalid, using fallback"
      [("configured", configured), ("fallback", Locale.fallback)]]

def UrlEncoder.startupNotes (label : String) : List Observation :=
  if (ofLabel label).charset.isSome then []
  else [.log .warn "Unsupported URL encoding charset configured" [("charset", label)]]

/-- A number of seconds that may not be set. -/
def CacheSettings.lifetimeText (c : CacheSettings) : String :=
  match c.lifetime with
  | none => "None"
  | some s => "Some(" ++ toString s ++ ")"

namespace Engine

def ofSettings (s : Settings) : Engine :=
  ⟨Locales.ofConfigured s.engine.defaultLocale, UrlEncoder.ofLabel s.engine.urlCharset⟩

def startupNotes (s : Settings) : List Observation :=
  Locales.startupNotes s.engine.defaultLocale ++ UrlEncoder.startupNotes s.engine.urlCharset ++
    [.log .info "Template engine initialized"
      [("default_locale", (ofSettings s).locales.default), ("url_charset", s.engine.urlCharset),
        ("cache_enabled", if s.cache.enabled then "true" else "false"),
        ("cache_ttl_seconds", s.cache.lifetimeText)]]

def resolve (e : Engine) (tenant : String) (application : Option String) (channel : Channel)
    (templateType locale : String) : Lookup Template :=
  Resolution.resolve e.locales tenant application channel templateType locale

def renderNotes (t : Template) (channel : Channel) :
    Except RenderFailure Notification → List Observation
  | .error f => [.counted .renderFailures f.reason 1]
  | .ok _ =>
    [.counted .renders channel.name 1,
      .log .debug "Notification rendered"
        [("channel", channel.name), ("template_type", t.templateType), ("locale", t.locale)]]

def render (e : Engine) (channel : Channel) (t : Template) (values : Placeholders)
    (sendTo : String) (sendFrom : Option String) (stamp : Stamp) : Lookup Notification := do
  let result := t.render channel e.encoder values sendTo sendFrom stamp
  ExceptT.lift (Program.notes (renderNotes t channel result))
  match result with
  | .ok n => return n
  | .error f => throw f.toError

def notify (e : Engine) (request : NotificationRequest) (stamp : Stamp) : Lookup Notification :=
  Lookup.inSpan "engine.notify" do
    let t ← e.resolve request.tenant request.application request.channel request.templateType
      request.locale
    let n ← e.render request.channel t request.placeholders request.sendTo request.sendFrom stamp
    Lookup.note (.attribute (.notification stamp.id.text))
    Lookup.note (.attribute (.locale n.locale))
    Lookup.note (.attribute (.placeholderCount request.placeholders.size))
    return n

/-- The template types that the tenant of a domain has on a channel. -/
def listTemplateTypes (channel : Channel) (domain : String) : Lookup (List String) := do
  match ← Lookup.ofExcept (.request (.tenantId domain)) with
  | none => throw (.unknownTenant domain)
  | some tenant => Resolution.templateTypes tenant channel

end Engine

def CacheSettings.caches (c : CacheSettings) : Caches := .new c.enabled c.lifetime

def World.ofSettings (s : Settings) (store : Store) : World where
  store := store
  directory := s.tenant.directory
  caches := s.cache.caches

end Herald
