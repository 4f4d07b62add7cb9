import Herald.Json.Reader
import Herald.Settings.Basic
import Herald.Settings.VariableFile

/-!
# Herald.Settings.Load

Settings from all their sources. In rising order of rank these are the defaults, the file
`config/default.json`, the file of the mode in which the program runs, the file `.env`, and the
environment.

* `Settings.ofValue?`: settings from a value of a source.
* `Settings.layers`: the sources.
* `Settings.merge`: the value that they give together.
* `Settings.load`: the settings that they give together.
-/

namespace Herald.Settings

open Value

inductive LoadError where
  | unreadable (file : String)
  /-- A variable of the file `.env` has a value that no variable can have. -/
  | unsettable
  | outside
  | unfit
  deriving DecidableEq, Repr

def LoadError.message : LoadError → String
  | unreadable file => "cannot read settings from " ++ file
  | unsettable => "a variable cannot be set"
  | outside => "a list has no such item"
  | unfit => "a setting has a value that does not fit"

def engineOfValue? (v : Value) : Option EngineSettings := do
  let fs ← fields? ["default_locale", "url_charset"] v
  let d : EngineSettings := {}
  return { defaultLocale := ← field fs "default_locale" d.defaultLocale text?
           urlCharset := ← field fs "url_charset" d.urlCharset text? }

def cacheOfValue? (v : Value) : Option CacheSettings := do
  let fs ← fields? ["enabled", "ttl_seconds"] v
  return { enabled := ← field fs "enabled" true boolean?
           lifetime := ← field fs "ttl_seconds" none (optional? natural?) }

def storeOfValue? (v : Value) : Option StoreSettings := do
  let fs ← fields? ["seed_file"] v
  return { seedFile := ← field fs "seed_file" none (optional? text?) }

def tenantOfValue? (v : Value) : Option TenantSettings := do
  let fs ← fields? ["passthrough", "domains", "organizations"] v
  return { passthrough := ← field fs "passthrough" true boolean?
           domains := ← field fs "domains" [] texts?
           organizations := ← field fs "organizations" [] texts? }

def telemetryOfValue? (v : Value) : Option TelemetrySettings := do
  let fs ← fields? ["enabled", "endpoint", "service_name", "sampling_ratio"] v
  let d : TelemetrySettings := {}
  return { enabled := ← field fs "enabled" d.enabled boolean?
           endpoint := ← field fs "endpoint" d.endpoint text?
           serviceName := ← field fs "service_name" d.serviceName text?
           samplingRatio := ← field fs "sampling_ratio" d.samplingRatio double? }

def ofValue? (v : Value) : Option Settings := do
  let fs ← fields? ["engine", "cache", "store", "tenant", "otel"] v
  return { engine := ← field fs "engine" {} engineOfValue?
           cache := ← field fs "cache" {} cacheOfValue?
           store := ← field fs "store" {} storeOfValue?
           tenant := ← field fs "tenant" {} tenantOfValue?
           telemetry := ← field fs "otel" {} telemetryOfValue? }

/-- The settings of which it is known from the start that they are given. -/
def defaults : List (String × Value) :=
  let d : Settings := {}
  [("engine.default_locale", .text d.engine.defaultLocale),
    ("engine.url_charset", .text d.engine.urlCharset),
    ("cache.enabled", .boolean d.cache.enabled),
    ("tenant.passthrough", .boolean d.tenant.passthrough),
    ("otel.enabled", .boolean d.telemetry.enabled)]

def ending : String := ".json"

/-- A path in reverse without slashes and points that lead nowhere. -/
def trimPath : List Char → List Char
  | '/' :: r => trimPath r
  | '.' :: '/' :: r => trimPath r
  | r => r

/-- A path with the ending of a file with settings behind its last name. A path that ends by leading
up has no such name. -/
def withEnding? (name : String) : Option String :=
  match trimPath name.toList.reverse with
  | '.' :: '.' :: '/' :: _ => none
  | r => some (String.ofList r.reverse ++ ending)

/-- Whether the last name of a path has the ending of a file with settings behind something else. -/
def hasEnding (name : String) : Bool := name.endsWith ending && !name.endsWith ("/" ++ ending)

/-- The text of a file with settings. The file of this very name goes before the one with the ending
added, and says nothing if it has another ending. -/
def fileText? (files : String → Option String) (name : String) : Option String :=
  match files name with
  | some content => if hasEnding name then some content else none
  | none => (withEnding? name).bind files

/-- The keys and values of a JSON file. A file that is not there gives none. -/
def fileLayer (files : String → Option String) (name : String) :
    Except LoadError (List (String × Value)) :=
  match fileText? files name with
  | none => .ok []
  | some content =>
    match Json.read? content with
    | some v =>
      if !v.sound Json.maxDepth then .error (.unreadable name)
      else
        match Value.ofJson v.canonical with
        | .table ms => .ok ms
        | _ => .error (.unreadable name)
    | none => .error (.unreadable name)

/-- The file of the mode in which the program runs, without its ending. -/
def modeFile (mode : String) : String := "config/" ++ mode

def defaultMode : String := "development"

/-- The environment with the variables of the file `.env` behind it. -/
def fullEnvironment (env : Environment.Variables) (files : String → Option String) :
    Except LoadError Environment.Variables :=
  match files ".env" with
  | none => .ok env
  | some content =>
    match VariableFile.load? env content with
    | some env => .ok env
    | none => .error .unsettable

def mode (env : Environment.Variables) : String := (env.lookup "RUN_MODE").getD defaultMode

/-- The files in which settings may stand, in the mode of an environment. -/
def sourceFiles (env : Environment.Variables) : List String :=
  [modeFile "default", modeFile (mode env)].flatMap fun name => name :: (withEnding? name).toList

/-- The sources besides the defaults in rising order of rank. The environment is the full one. -/
def layers (env : Environment.Variables) (files : String → Option String) :
    Except LoadError (List (List (String × Value))) := do
  let base ← fileLayer files (modeFile "default")
  let special ← fileLayer files (modeFile (mode env))
  return [base, special, Environment.settings env]

def applyLayer (v : Value) (layer : List (String × Value)) : Option Value :=
  layer.foldlM (fun v m => setPath (some v) (Path.ofKey m.1) m.2) v

/-- Lays sources over each other, and what they give together over the defaults. -/
def merge (sources : List (List (String × Value))) : Option Value := do
  let given ← sources.foldlM applyLayer (.table [])
  applyLayer (← applyLayer (.table []) defaults) (members (some given))

/-- The settings that the sources give together. The environment is the full one. -/
def ofSources (env : Environment.Variables) (files : String → Option String) :
    Except LoadError Settings := do
  match merge (← layers env files) with
  | none => throw .outside
  | some v =>
    match ofValue? v with
    | some s => return s
    | none => throw .unfit

def load (env : Environment.Variables) (files : String → Option String) :
    Except LoadError Settings := do
  ofSources (← fullEnvironment env files) files

end Herald.Settings
