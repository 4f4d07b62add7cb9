import Herald.Channel.Parse
import Herald.Engine
import Herald.Json.Writer
import Herald.Settings.Load
import Herald.Store.Seed
import Herald.Telemetry

/-!
# Herald.Command

The command line: one notification, rendered and printed.

* `Command.Inputs`: the arguments, the environment, the files and the stamp.
* `Command.Failure`: why nothing was rendered.
* `Command.run`: what is printed, what is complained of, and the exit code.
-/

namespace Herald.Command

open Number

structure Inputs where
  arguments : List String
  environment : Settings.Environment.Variables
  files : String → Option String
  stamp : Stamp
  /-- The number of threads that may work at a time, where the caller gives one. -/
  threads : Option String := none

structure Outcome where
  exitCode : Nat
  output : List String
  complaint : Option String
  deriving DecidableEq, Repr

/-- Why nothing was rendered. -/
inductive Failure where
  | threads (text : String)
  | settings (cause : Settings.LoadError)
  | telemetry (cause : Telemetry.Fault)
  | usage
  | placeholder (argument : String)
  | seedFile (path : String)
  | unknownDomain (domain : String)
  | engine (cause : EngineError)
  deriving DecidableEq, Repr

def usageText : String :=
  "usage: notification-template-engine <channel> <tenant_domain> <template_type> <locale> " ++
    "<send_to> [key=value ...]"

def Failure.message : Failure → String
  | threads text => "no such number of threads: " ++ text
  | settings cause => cause.message
  | telemetry cause => cause.message
  | usage => usageText
  | placeholder argument => "Invalid placeholder '" ++ argument ++ "', expected key=value"
  | seedFile path => "Failed to seed template store from " ++ path
  | unknownDomain domain => "Unknown tenant domain " ++ domain
  | engine cause => cause.message

/-- The exit code of a failure. It stands out where the request goes beyond what the system can
hold. -/
def Failure.exitCode : Failure → Nat
  | threads _ | settings .unsettable | settings .outside | telemetry (.queue _) => 101
  | _ => 1

def threadLimit : Nat := twoTo 15

def threadsFit (text : String) : Bool :=
  match readNat? text with
  | some n => 0 < n && n < threadLimit
  | none => false

/-- The name and the value of a placeholder argument. The name is not empty and ends at the first
equals sign. -/
def placeholder (argument : String) : Except Failure (String × String) :=
  match Text.cutAt (· = '=') argument.toList with
  | some (c :: name, value) => .ok (String.ofList (c :: name), String.ofList value)
  | _ => .error (.placeholder argument)

def store (files : String → Option String) : Option String → Except Failure Store
  | none => .ok Store.empty
  | some path =>
    match (files path).map Store.ofSeedText with
    | some (.ok s) => .ok s
    | _ => .error (.seedFile path)

def render (i : Inputs) : Except Failure Notification := do
  match i.threads with
  | some text => if !threadsFit text then throw (.threads text)
  | none => pure ()
  let environment ← (Settings.fullEnvironment i.environment i.files).mapError .settings
  let settings ← (Settings.ofSources environment i.files).mapError .settings
  if settings.telemetry.enabled then
    match Telemetry.fault? environment settings.telemetry.endpoint with
    | some fault => throw (.telemetry fault)
    | none => pure ()
  match i.arguments with
  | channel :: domain :: templateType :: locale :: sendTo :: rest =>
    let channel ← (Channel.parse channel).mapError .engine
    let values ← rest.mapM placeholder
    let store ← store i.files settings.store.seedFile
    let tenant ← match settings.tenant.directory.tenantId domain with
      | some tenant => pure tenant
      | none => throw (.unknownDomain domain)
    let request : NotificationRequest :=
      { tenant, channel, templateType, locale, sendTo, placeholders := .ofPairs values }
    let engine := Engine.ofSettings settings
    let reply := (World.ofSettings settings store).perform (engine.notify request i.stamp)
    reply.answer.mapError .engine
  | _ => throw .usage

def lines (n : Notification) : List String :=
  (Text.pieces (· = '\n') (n.toJson.pretty 0).toList).map String.ofList

def run (i : Inputs) : Outcome :=
  match render i with
  | .ok n => ⟨0, lines n, none⟩
  | .error f => ⟨f.exitCode, [], some ("Error: " ++ f.message)⟩

end Herald.Command
