import Herald.Endpoint
import Herald.Number.Read

/-!
# Herald.Telemetry

What sending traces needs of the environment.

* `Telemetry.endpoint`: the address to use, which variables may name.
* `Telemetry.fault?`: why traces cannot be sent, if they cannot.
-/

namespace Herald.Telemetry

open Number

inductive Fault where
  /-- A variable asks for compression. There is no way of compressing. -/
  | compression
  | address (text : String)
  | queue (size : Nat)
  deriving DecidableEq, Repr

def Fault.message : Fault → String
  | compression => "Failed to build OTLP exporter: no way of compressing"
  | address text => "Failed to build OTLP exporter: invalid address " ++ text
  | queue size => "no queue for " ++ toString size ++ " spans"

/-- The variables that name an address, in falling order of rank. -/
def addressVariables : List String :=
  ["OTEL_EXPORTER_OTLP_TRACES_ENDPOINT", "OTEL_EXPORTER_OTLP_ENDPOINT"]

def compressionVariables : List String :=
  ["OTEL_EXPORTER_OTLP_TRACES_COMPRESSION", "OTEL_EXPORTER_OTLP_COMPRESSION"]

def queueVariable : String := "OTEL_BSP_MAX_QUEUE_SIZE"

/-- The spans that may wait where the variable says nothing. -/
def defaultQueue : Nat := 2048

def queueLimit : Nat := twoTo 61

/-- The address to use: that of a variable, else the configured one. -/
def endpoint (env : List (String × String)) (configured : String) : String :=
  (addressVariables.findSome? fun name => env.lookup name).getD configured

def queueSize (env : List (String × String)) : Nat :=
  ((env.lookup queueVariable).bind readNat?).getD defaultQueue

/-- Why traces cannot be sent under an environment and a configured address. -/
def fault? (env : List (String × String)) (configured : String) : Option Fault :=
  if compressionVariables.any fun name => (env.lookup name).isSome then some .compression
  else if !Endpoint.valid (endpoint env configured) then some (.address (endpoint env configured))
  else if 0 < queueSize env && queueSize env < queueLimit then none
  else some (.queue (queueSize env))

end Herald.Telemetry
