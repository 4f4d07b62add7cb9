import Herald.Channel.Basic

/-!
# Herald.Error

What can go wrong, and how it is told.

* `StoreError`: faults of a template store.
* `EngineError`: faults of a lookup, a rendering or a configuration.
* `EngineError.recoverable`: whether a fault concerns one notification only.
-/

namespace Herald

inductive StoreError where
  | unavailable (reason : String)
  | corrupt (path reason : String)
  | invalid (reason : String)
  | alreadyExists (what : String)
  | notFound (what : String)
  | file (reason : String)
  | data (reason : String)
  deriving DecidableEq, Repr

def StoreError.message : StoreError → String
  | unavailable reason => "Template store unavailable: " ++ reason
  | corrupt path reason => "Corrupt template at " ++ path ++ ": " ++ reason
  | invalid reason => "Invalid template: " ++ reason
  | alreadyExists what => "Template already exists: " ++ what
  | notFound what => "Template not found: " ++ what
  | file reason => "I/O error: " ++ reason
  | data reason => "Serialization error: " ++ reason

inductive EngineError where
  | notFound (tenant : String) (channel : Channel) (templateType locale : String)
  | store (cause : StoreError)
  | encoding (reason : String)
  | invalidTemplate (reason : String)
  | invalidChannel (name : String)
  | unknownTenant (domain : String)
  | configuration (reason : String)
  deriving DecidableEq, Repr

namespace EngineError

def message : EngineError → String
  | notFound tenant channel templateType locale =>
    "Template not found: tenant=" ++ tenant ++ " channel=" ++ channel.name ++ " type=" ++
      templateType ++ " locale=" ++ locale
  | store cause => "Template store error: " ++ cause.message
  | encoding reason => "Encoding error: " ++ reason
  | invalidTemplate reason => "Invalid template: " ++ reason
  | invalidChannel name => "Invalid channel: " ++ name
  | unknownTenant domain => "Unknown tenant domain: " ++ domain
  | configuration reason => "Configuration error: " ++ reason

def code : EngineError → String
  | notFound .. => "TEMPLATE_NOT_FOUND"
  | store _ => "STORE_ERROR"
  | encoding _ => "ENCODING_ERROR"
  | invalidTemplate _ => "INVALID_TEMPLATE"
  | invalidChannel _ => "INVALID_CHANNEL"
  | unknownTenant _ => "UNKNOWN_TENANT"
  | configuration _ => "CONFIG_ERROR"

/-- Whether a fault concerns one notification only, so that a batch can go on without it. -/
def recoverable : EngineError → Bool
  | notFound .. | encoding _ | invalidTemplate _ => true
  | store _ | invalidChannel _ | unknownTenant _ | configuration _ => false

end EngineError

end Herald
