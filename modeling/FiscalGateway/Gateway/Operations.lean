import FiscalGateway.Gateway.Fault
import FiscalGateway.Pki.Import
import FiscalGateway.Sale.SecurityCodes
import FiscalGateway.Soap.Signing
import FiscalGateway.Vault.Operations

/-!
# The operations of the gateway

Each operation is a program over the effects of the vault and of the registry, and over a token that
may be cancelled at any time. Reading and sending are given up when the token is cancelled
(`cancellable`, `send`). A write asks for the token once, before it starts, and then runs to its end
(`committing`).

A sale is validated, stamped, put into an envelope, signed, sent once and its answer checked, in
this order.
-/

namespace FiscalGateway

/-- The parts that the operations use. -/
structure Gateway where
  vault : Vault
  /-- The roots of the certificates of merchants, and what judges by them. -/
  merchantRoots : Pki.Roots
  verifier : Soap.Verifier

namespace Gateway

/-- What an operation asks of its surroundings. -/
inductive Effect : Type → Type 1 where
  | vault {α : Type} (effect : Vault.Effect α) : Effect α
  /-- Whether the token is cancelled. -/
  | isCancelled : Effect Bool
  /-- Sends an envelope and waits; there is no answer if the token is cancelled meanwhile. -/
  | send (envelope : Octets) : Effect (Option (Except TransportFault Octets))
  | probe : Effect (Except TransportFault Unit)

/-- A computation of the gateway. -/
abbrev Call (α : Type) := Program Effect α

/-- The outcome of an operation. -/
abbrev Outcome (α : Type) := Except GatewayFault α

variable {α β : Type}

/-- A computation of the vault. -/
def ofVault (c : Vault.Call (Except Vault.Fault α)) : Call (Outcome α) := do
  return (← Program.lift Effect.vault c).mapError Vault.Fault.toGateway

/-- Runs a computation that takes no time, unless the token is cancelled. -/
def cancellable (c : Call (Outcome α)) : Call (Outcome α) := do
  if ← Program.request .isCancelled then return .error .cancelled else c

/-- Starts a write unless the token is cancelled; once started, it runs to its end. -/
def committing (write : Call (Outcome α)) : Call (Outcome α) := do
  if ← Program.request .isCancelled then return .error .cancelled else write

/-- Goes on unless there was a failure. -/
def andThen (first : Call (Outcome α)) (next : α → Call (Outcome β)) : Call (Outcome β) := do
  match ← first with
  | .ok a => next a
  | .error f => return .error f

/-- Sends an envelope unless the token is cancelled. -/
def send (envelope : Octets) : Call (Outcome Octets) :=
  cancellable do
    match ← Program.request (.send envelope) with
    | none => return .error .cancelled
    | some answer => return answer.mapError .authorityUnreachable

/-- The signed envelope of a sale. -/
def buildRequest (s : Sale) (pair : Pki.KeyPair) : Outcome Octets := do
  let stamped ← (s.stamp pair.privateKey).mapError fun f => .requestBuild f.message
  let envelope ← (Soap.envelopeOf stamped pair.certificate.der).mapError fun f =>
    .requestBuild f.message
  let signed ← (Soap.sign envelope pair.privateKey).mapError fun f => .requestBuild f.message
  return Soap.octetsOf signed

/-- Registers a sale. What the sale does not say of its times is `now`. -/
def sendSale (g : Gateway) (now : Time.Timestamp) (id : String) (password : Octets) (sale : Sale) :
    Call (Outcome Soap.Response) :=
  let sale := sale.fillTimes now
  match sale.validate with
  | .error violation => return .error (.invalidSale violation)
  | .ok _ =>
    andThen (cancellable (ofVault (g.vault.get id password))) fun pair =>
      andThen (return buildRequest sale pair) fun envelope =>
        andThen (send envelope) fun answer =>
          return (g.verifier.verify answer sale.uuid).mapError Soap.VerifyFault.toGateway

/-- Stores the pair of a bundle, which is judged at a time given in seconds. -/
def storeCert (g : Gateway) (now : Int) (id : String) (password bundle : Octets)
    (bundlePassword : String) : Call (Outcome Unit) :=
  match Pki.importBundle bundle bundlePassword g.merchantRoots now with
  | .error rejection => return .error (.invalidMerchantCert rejection)
  | .ok pair => committing (ofVault (g.vault.store id password pair))

/-- The identifiers in order, from `offset` on and at most `limit` of them. -/
def listCertIds (g : Gateway) (offset limit : Nat) : Call (Outcome (List String)) :=
  cancellable (ofVault (g.vault.list offset limit))

/-- Gives a pair another identifier. -/
def updateCertId (g : Gateway) (oldId newId : String) : Call (Outcome Unit) :=
  committing (ofVault (g.vault.updateId oldId newId))

/-- Seals a pair under a new password. -/
def updateCertPassword (g : Gateway) (id : String) (oldPassword newPassword : Octets) :
    Call (Outcome Unit) :=
  committing (ofVault (g.vault.updatePassword id oldPassword newPassword))

/-- Takes a pair out. -/
def deleteId (g : Gateway) (id : String) : Call (Outcome Unit) :=
  committing (ofVault (g.vault.delete id))

/-- The failure of an outcome. -/
def fault? : Outcome α → Option GatewayFault
  | .ok _ => none
  | .error f => some f

/-- Why there is no good news about health. -/
inductive PingFault where
  | cancelled
  | unhealthy (fault : HealthFault)
  deriving DecidableEq, Repr

/-- Probes the registry and the vault. Both are probed, and every failure is kept. -/
def ping : Call (Except PingFault Unit) := do
  if ← Program.request .isCancelled then return .error .cancelled
  let authority : Outcome Unit :=
    (← Program.request .probe).mapError GatewayFault.authorityUnreachable
  let vault ← ofVault Vault.ping
  -- a registry out of reach does not hide a vault out of reach
  match HealthFault.ofList? ([authority, vault].filterMap fault?) with
  | none => return .ok ()
  | some fault => return .error (.unhealthy fault)

end Gateway
end FiscalGateway
