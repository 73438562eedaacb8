import FiscalGateway.Gateway.Fault
import FiscalGateway.Json.Printer

/-!
# Health

The report on what the gateway relies on. Each failed probe counts against one of two: what keeps
the registry from being reached against the registry, all else against the vault.
-/

namespace FiscalGateway

/-- The name of the program. -/
def Server.program : String := "eet-gateway"

/-- The version of the program. -/
def Server.version : String := "0.3.0"

/-- What the gateway relies on. -/
inductive Downstream where
  | authority
  | vault
  deriving DecidableEq, Repr

namespace Downstream

/-- All of them, in the order of reports. -/
def all : List Downstream := [authority, vault]

/-- The name in reports. -/
def title : Downstream → String
  | authority => "authority"
  | vault => "vault"

end Downstream

/-- Against whom a failure counts. -/
def GatewayFault.downstream (f : GatewayFault) : Downstream :=
  if f.kind = .authorityUnreachable then .authority else .vault

/-- The failures of a probe, and for how many seconds the server has been running. -/
structure HealthReport where
  uptime : Nat
  failures : List GatewayFault
  deriving DecidableEq, Repr

namespace HealthReport

/-- Whether nothing failed. -/
def isHealthy (r : HealthReport) : Bool := r.failures.isEmpty

/-- The first failure that counts against one of those relied on. -/
def failure? (r : HealthReport) (d : Downstream) : Option GatewayFault :=
  r.failures.find? (·.downstream = d)

/-- The check of one of those relied on. -/
def checkJson (r : HealthReport) (d : Downstream) : Json :=
  let failure? := r.failure? d
  .object ([("name", .string d.title),
    ("status", .string (if failure?.isSome then "fail" else "pass"))] ++
    failure?.toList.map fun f => ("message", .string f.message))

/-- The report as it is written. -/
def toJson (r : HealthReport) : Json :=
  .object [("status", .string (if r.isHealthy then "healthy" else "unhealthy")),
    ("version", .string Server.version), ("uptime_secs", .ofNat r.uptime),
    ("checks", .array (Downstream.all.map r.checkJson))]

end HealthReport
end FiscalGateway
