import FiscalGateway.Pki.Rejection
import FiscalGateway.Text.Quoted
import FiscalGateway.Vault.Store

/-!
# Why the vault refuses

The causes for which credentials are not stored, found or opened.
-/

namespace FiscalGateway.Vault

/-- What is wrong with a stored record. -/
inductive Corruption where
  | missingField (name : String)
  | saltLength (octets : Nat)
  /-- A sealed field too short for its nonce and tag. -/
  | truncated (octets : Nat)
  | certificate
  | privateKey
  /-- The certificate and the key do not make a pair. -/
  | pair (rejection : Pki.Rejection)
  /-- A defect in the words of whoever found it. -/
  | reported (text : String)
  deriving DecidableEq, Repr

/-- The wording of a defect. -/
def Corruption.message : Corruption → String
  | .missingField name => "missing field " ++ name
  | .saltLength n => "salt is " ++ toString n ++ " bytes"
  | .truncated n => "sealed payload of " ++ toString n ++ " bytes is truncated"
  | .certificate => "certificate: *"
  | .privateKey => "private key: *"
  | .pair rejection => rejection.message
  | .reported text => text

/-- The causes of refusal. -/
inductive Fault where
  | notFound (id : String)
  | idExists (id : String)
  | badPassword
  /-- The conflicts did not end. -/
  | maxAttempts
  | unavailable (reason : String)
  | corrupted (corruption : Corruption)
  /-- A write came between; the operation may be tried again. -/
  | conflict
  deriving DecidableEq, Repr

/-- The wording of a refusal. -/
def Fault.message : Fault → String
  | .notFound id => "no credentials stored under " ++ Text.quoted id
  | .idExists id => "credentials already stored under " ++ Text.quoted id
  | .badPassword => "wrong password"
  | .maxAttempts => "too many conflicting concurrent updates"
  | .unavailable reason => "backing store unavailable: " ++ reason
  | .corrupted corruption => "stored record is corrupted: " ++ corruption.message
  | .conflict => "concurrent modification"

/-- The refusal of the store as one of the vault. -/
def StoreFault.toFault : StoreFault → Fault
  | .backend reason => .unavailable reason
  | .conflict => .conflict

end FiscalGateway.Vault
