import FiscalGateway.Gateway.Transport
import FiscalGateway.Server.CommandLine
import FiscalGateway.Settings.Reader
import FiscalGateway.Soap.Verification
import FiscalGateway.Gateway.Operations
import FiscalGateway.Vault.Connection

/-!
# Starting the server

From the command line to the moment at which the server listens: the settings are loaded, the store
is connected, the address of the registry is checked and the pinned certificates are loaded, in this
order, and the first failure ends it. What a failure was met with is told from the outside in.
-/

namespace FiscalGateway.Server

/-! ## Records -/

/-- How records are written. -/
inductive LogFormat where
  | pretty
  | json
  deriving DecidableEq, Repr

/-- The format of a name; case does not count, and what is no name of a format is for people. -/
def LogFormat.ofText (name : String) : LogFormat :=
  if name.map Char.toLower = "json" then .json else .pretty

/-- A record of what happened. -/
structure LogRecord where
  message : String
  fields : List (String × Json)

namespace LogRecord

/-- The level of all records of a start. -/
def level : String := "INFO"

/-- The record as a value. -/
def toJson (r : LogRecord) : Json :=
  .object [("level", .string level),
    ("fields", .object (("message", .string r.message) :: r.fields))]

end LogRecord

/-- The records of this format that are values. -/
def LogFormat.values (format : LogFormat) (records : List LogRecord) : List Json :=
  match format with
  | .json => records.map LogRecord.toJson
  | .pretty => []

/-! ## Assembling the gateway -/

/-- Why the server does not start. -/
inductive StartFault where
  | settings (path : String) (fault : SettingsFault)
  | store (fault : Vault.StoreFault)
  | endpoint (fault : SettingsFault)
  | transport (fault : TransportFault)
  | merchantRoots (rejection : Pki.Rejection)
  | authorityRoots (rejection : Pki.Rejection)
  | listen (address : Net.ListenAddress) (error : SystemError)
  deriving DecidableEq, Repr

/-- What stands behind a fault of the settings. -/
def sources : SettingsFault → List String
  | .file _ error => [error.message]
  | fault@(.encoding _) => [fault.detail]
  | _ => []

/-- The causes of a fault, from the outside in. -/
def StartFault.causes : StartFault → List String
  | .settings path fault => ["loading " ++ path, fault.message] ++ sources fault
  | .store fault => ["connecting credential vault", fault.message]
  | .endpoint fault => [fault.message]
  | .transport fault => [fault.message]
  | .merchantRoots rejection => ["loading merchant roots", rejection.message]
  | .authorityRoots rejection => ["loading authority roots", rejection.message]
  | .listen address error => ["binding " ++ String.ofList address.write, error.message]

/-- All that the server needs. -/
structure Deployment where
  settings : Settings
  store : Vault.Store
  endpoint : Url
  merchantRoots : Pki.Pool
  authorityRoots : Pki.Pool

namespace Deployment

/-- Gets all that these settings name. -/
def ofSettings (readFile : ReadFile) (s : Settings) : Except StartFault Deployment := do
  let store ← s.vault.connect.mapError .store
  let endpoint ← s.endpoint.mapError .endpoint
  let endpoint ← endpoint.checkEndpoint.mapError .transport
  let merchantRoots ← (s.merchantPool readFile).mapError .merchantRoots
  let authorityRoots ← (s.authorityPool readFile).mapError .authorityRoots
  return ⟨s, store, endpoint, merchantRoots, authorityRoots⟩

/-- The gateway; answers are judged at a time given in seconds. -/
def gateway (d : Deployment) (now : Int) : Gateway where
  vault := ⟨Vault.Sealing.standard, d.settings.vault.policy, d.settings.vault.space⟩
  merchantRoots := d.merchantRoots
  verifier := ⟨d.authorityRoots.verifyChain now, d.settings.trust.organization⟩

/-- The record of what is trusted. -/
def pinned (d : Deployment) : LogRecord where
  message := "trust anchors pinned"
  fields := [("environment", .string d.settings.environment.title),
    ("merchant_roots", .ofNat d.merchantRoots.certificates.length),
    ("authority_roots", .ofNat d.authorityRoots.certificates.length),
    ("endpoint", .string d.endpoint.text)]

end Deployment

/-! ## A start -/

/-- How a start ends. -/
inductive Ending where
  | help
  | version
  | misuse
  | failed (fault : StartFault)
  | listening (deployment : Deployment) (address : Net.ListenAddress)

/-- The code that the program ends with, unless it goes on. -/
def Ending.exitCode : Ending → Nat
  | help | version | listening _ _ => 0
  | failed _ => 1
  | misuse => 2

/-- The causes of failure. -/
def Ending.causes : Ending → List String
  | failed fault => fault.causes
  | _ => []

/-- Where listening is asked for, and what the system says to it. -/
abbrev Listen := Net.ListenAddress → Except SystemError Unit

/-- Starts as the arguments say: how it ends, and the records made meanwhile. -/
def start (readFile : ReadFile) (listen : Listen) (a : Arguments) : Ending × List LogRecord :=
  let path := a.settingsFile
  match (Settings.load readFile path).mapError (StartFault.settings path) >>=
      Deployment.ofSettings readFile with
  | .error fault => (.failed fault, [])
  | .ok d =>
    let address := a.listen.getD d.settings.listen
    match listen address with
    | .error error => (.failed (.listen address error), [d.pinned])
    | .ok _ => (.listening d address, [d.pinned])

/-- Does what the command line asks for. -/
def launch (readFile : ReadFile) (listen : Listen) : Invocation → Ending × List LogRecord
  | .help => (.help, [])
  | .version => (.version, [])
  | .misuse => (.misuse, [])
  | .start arguments => start readFile listen arguments

end FiscalGateway.Server
