import FiscalGateway.Gateway.Transport
import FiscalGateway.Sale.Validation
import FiscalGateway.Soap.Verification
import FiscalGateway.Vault.Fault

/-!
# Why the gateway fails

Every failure of a part becomes one of a few kinds; a kind has a code and a status of its own. A
failed answer is a matter of form or of trust, and the kind tells which.
-/

namespace FiscalGateway

/-- The kinds of failure. -/
inductive FaultKind where
  | certNotFound
  | badCertPassword
  | idExists
  | invalidMerchantCert
  | invalidSale
  | requestBuild
  | authorityUnreachable
  | responseParse
  | responseVerify
  | vaultUnavailable
  | maxAttempts
  | cancelled
  | unexpected
  deriving DecidableEq, Repr

namespace FaultKind

/-- All kinds. -/
def all : List FaultKind :=
  [certNotFound, badCertPassword, idExists, invalidMerchantCert, invalidSale, requestBuild,
    authorityUnreachable, responseParse, responseVerify, vaultUnavailable, maxAttempts, cancelled,
    unexpected]

/-- The code of a kind. -/
def code : FaultKind → String
  | certNotFound => "CERT_NOT_FOUND"
  | badCertPassword => "BAD_CERT_PASSWORD"
  | idExists => "ID_EXISTS"
  | invalidMerchantCert => "INVALID_MERCHANT_CERT"
  | invalidSale => "INVALID_SALE"
  | requestBuild => "REQUEST_BUILD"
  | authorityUnreachable => "AUTHORITY_UNREACHABLE"
  | responseParse => "RESPONSE_PARSE"
  | responseVerify => "RESPONSE_VERIFY"
  | vaultUnavailable => "VAULT_UNAVAILABLE"
  | maxAttempts => "MAX_ATTEMPTS"
  | cancelled => "CANCELLED"
  | unexpected => "UNEXPECTED"

/-- The status of a kind in an answer to a client. -/
def status : FaultKind → Nat
  | certNotFound => 404
  | badCertPassword => 401
  | idExists => 409
  | invalidMerchantCert | invalidSale => 400
  | authorityUnreachable | vaultUnavailable => 503
  | cancelled => 408
  | requestBuild | responseParse | responseVerify | maxAttempts | unexpected => 500

end FaultKind

/-- The failures of an operation. -/
inductive GatewayFault where
  | certNotFound (id : String)
  | badCertPassword
  | idExists (id : String)
  | invalidMerchantCert (rejection : Pki.Rejection)
  | invalidSale (violation : Violation)
  | requestBuild (reason : String)
  | authorityUnreachable (fault : TransportFault)
  | responseParse (fault : Soap.VerifyFault)
  | responseVerify (fault : Soap.VerifyFault)
  | vaultUnavailable (reason : String)
  | maxAttempts
  | cancelled
  | unexpected (reason : String)
  deriving DecidableEq, Repr

namespace GatewayFault

/-- The kind of a failure. -/
def kind : GatewayFault → FaultKind
  | certNotFound _ => .certNotFound
  | badCertPassword => .badCertPassword
  | idExists _ => .idExists
  | invalidMerchantCert _ => .invalidMerchantCert
  | invalidSale _ => .invalidSale
  | requestBuild _ => .requestBuild
  | authorityUnreachable _ => .authorityUnreachable
  | responseParse _ => .responseParse
  | responseVerify _ => .responseVerify
  | vaultUnavailable _ => .vaultUnavailable
  | maxAttempts => .maxAttempts
  | cancelled => .cancelled
  | unexpected _ => .unexpected

/-- The wording of a failure. -/
def message : GatewayFault → String
  | certNotFound id => "certificate not found: " ++ id
  | badCertPassword => "invalid certificate password"
  | idExists id => "certificate ID already exists: " ++ id
  | invalidMerchantCert rejection => "invalid merchant certificate: " ++ rejection.message
  | invalidSale violation => "invalid sale: " ++ violation.message
  | requestBuild reason => "failed to build request: " ++ reason
  | authorityUnreachable fault => "authority unreachable: " ++ fault.message
  | responseParse fault => "malformed authority response: " ++ fault.message
  | responseVerify fault => "authority response verification failed: " ++ fault.message
  | vaultUnavailable reason => "credential vault unavailable: " ++ reason
  | maxAttempts => "maximum number of attempts reached"
  | cancelled => "operation cancelled"
  | unexpected reason => "unexpected error: " ++ reason

end GatewayFault

/-- The failure of the vault as one of the gateway. -/
def Vault.Fault.toGateway (f : Vault.Fault) : GatewayFault :=
  match f with
  | .notFound id => .certNotFound id
  | .idExists id => .idExists id
  | .badPassword => .badCertPassword
  | .maxAttempts => .maxAttempts
  | .unavailable reason => .vaultUnavailable reason
  | .corrupted _ | .conflict => .unexpected f.message

/-- The failure of an answer as one of the gateway. -/
def Soap.VerifyFault.toGateway (f : Soap.VerifyFault) : GatewayFault :=
  if f.isParseFault then .responseParse f else .responseVerify f

/-- Failed probes, of which there is at least one. -/
structure HealthFault where
  first : GatewayFault
  others : List GatewayFault
  deriving DecidableEq, Repr

namespace HealthFault

/-- All failures in order. -/
def failures (h : HealthFault) : List GatewayFault := h.first :: h.others

/-- The failures, if there are any. -/
def ofList? : List GatewayFault → Option HealthFault
  | [] => none
  | f :: rest => some ⟨f, rest⟩

/-- The kind with the highest status; of several the last one. -/
def kind (h : HealthFault) : FaultKind :=
  h.others.foldl (fun k f => if k.status ≤ f.kind.status then f.kind else k) h.first.kind

/-- The wording of all failures. -/
def message (h : HealthFault) : String :=
  "health check failed: " ++ "; ".intercalate (h.failures.map GatewayFault.message)

end HealthFault
end FiscalGateway
