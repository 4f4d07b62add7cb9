import Herald.Json.Record
import Herald.Directory

/-!
# Herald.Settings.Basic

Settings and their defaults.

* `Settings`: five sections.
* `Settings.ofJson?`: settings in JSON form; what is not given has its default.
* `Settings.directory`: the directory that the settings describe.
-/

namespace Herald

open Number

structure EngineSettings where
  /-- The locale where the requested one is invalid or has no template. -/
  defaultLocale : String := "en_US"
  urlCharset : String := "UTF-8"
  deriving DecidableEq, Repr

structure CacheSettings where
  enabled : Bool := true
  /-- The lifetime of entries in seconds. -/
  lifetime : Option Nat := none
  deriving DecidableEq, Repr

structure StoreSettings where
  seedFile : Option String := none
  deriving DecidableEq, Repr

structure TenantSettings where
  passthrough : Bool := true
  domains : List (String × String) := []
  organizations : List (String × String) := []
  deriving DecidableEq, Repr

structure TelemetrySettings where
  enabled : Bool := false
  endpoint : String := "http://localhost:4317"
  serviceName : String := "notification-template-engine"
  samplingRatio : Double := Double.ofNat 1
  deriving DecidableEq, Repr

structure Settings where
  engine : EngineSettings := {}
  cache : CacheSettings := {}
  store : StoreSettings := {}
  tenant : TenantSettings := {}
  telemetry : TelemetrySettings := {}
  deriving DecidableEq, Repr

namespace Settings

open Json

def engineOfJson? (v : Json) : Option EngineSettings := do
  let r ← Record.read? ["default_locale", "url_charset"] v
  let d : EngineSettings := {}
  return { defaultLocale := ← r.withDefault "default_locale" d.defaultLocale string?
           urlCharset := ← r.withDefault "url_charset" d.urlCharset string? }

def cacheOfJson? (v : Json) : Option CacheSettings := do
  let r ← Record.read? ["enabled", "ttl_seconds"] v
  return { enabled := ← r.withDefault "enabled" true bool?
           lifetime := ← r.optional "ttl_seconds" nat? }

def storeOfJson? (v : Json) : Option StoreSettings := do
  let r ← Record.read? ["seed_file"] v
  return { seedFile := ← r.optional "seed_file" string? }

def textsOfJson? (v : Json) : Option (List (String × String)) :=
  (v.map? string?).map (Ordered.insertAll [])

def tenantOfJson? (v : Json) : Option TenantSettings := do
  let r ← Record.read? ["passthrough", "domains", "organizations"] v
  return { passthrough := ← r.withDefault "passthrough" true bool?
           domains := ← r.withDefault "domains" [] textsOfJson?
           organizations := ← r.withDefault "organizations" [] textsOfJson? }

def telemetryOfJson? (v : Json) : Option TelemetrySettings := do
  let r ← Record.read? ["enabled", "endpoint", "service_name", "sampling_ratio"] v
  let d : TelemetrySettings := {}
  return { enabled := ← r.withDefault "enabled" d.enabled bool?
           endpoint := ← r.withDefault "endpoint" d.endpoint string?
           serviceName := ← r.withDefault "service_name" d.serviceName string?
           samplingRatio := ← r.withDefault "sampling_ratio" d.samplingRatio double? }

def ofJson? (v : Json) : Option Settings := do
  let r ← Record.read? ["engine", "cache", "store", "tenant", "otel"] v
  return { engine := ← r.withDefault "engine" {} engineOfJson?
           cache := ← r.withDefault "cache" {} cacheOfJson?
           store := ← r.withDefault "store" {} storeOfJson?
           tenant := ← r.withDefault "tenant" {} tenantOfJson?
           telemetry := ← r.withDefault "otel" {} telemetryOfJson? }

end Settings

def TenantSettings.directory (t : TenantSettings) : Directory where
  domains := Table.ofList t.domains
  organizations := Table.ofList t.organizations
  passthrough := t.passthrough

end Herald
