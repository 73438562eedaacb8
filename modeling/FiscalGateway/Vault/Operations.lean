import FiscalGateway.Program
import FiscalGateway.Retry
import FiscalGateway.Vault.Entry

/-!
# The operations of the vault

Each operation is a program: it asks the store for transactions, sleeps between attempts and draws
random octets. Transactions that meet a conflict are tried again as the policy says; every other
fault ends the operation. A pair is sealed once before it is stored, and anew at every attempt to
change its password.
-/

namespace FiscalGateway

/-- How credentials are sealed, and where and how persistently they are stored. -/
structure Vault where
  sealing : Vault.Sealing
  policy : RetryPolicy
  /-- Stands in front of every identifier in the store. -/
  space : String

namespace Vault

/-- What an operation asks of its surroundings. -/
inductive Effect : Type → Type 1 where
  | transact {α : Type} (t : Transaction α) : Effect (Except StoreFault α)
  | sleep (milliseconds : Nat) : Effect Unit
  | draw : Effect Noise

/-- A computation on a store. -/
abbrev Call (α : Type) := Program Effect α

variable {α ε : Type}

/-- One transaction. -/
def transact (t : Transaction α) : Call (Except Fault α) := do
  return (← Program.request (.transact t)).mapError StoreFault.toFault

/-- Whether a fault passes. -/
def isConflict (f : Fault) : Bool := f = .conflict

/-- The fault of an operation that was retried. -/
def Fault.ofRetry : RetryFault Fault → Fault
  | .exhausted _ _ => .maxAttempts
  | .aborted f => f

/-- Tries an attempt again as long as it meets conflicts. -/
def persist (v : Vault) (attempt : Call (Except Fault α)) : Call (Except Fault α) := do
  let outcome ← retry v.policy isConflict attempt fun ms => Program.request (.sleep ms)
  return outcome.mapError Fault.ofRetry

/-- The key of an identifier in the store. -/
def recordKey (v : Vault) (id : String) : String := v.space ++ id

/-- The identifier of a key in the store. -/
def identifier? (v : Vault) (key : String) : Option String :=
  if beginsWith v.space key then some (String.ofList (key.toList.drop v.space.length)) else none

/-- Goes on with the answer of a transaction unless it failed. -/
def andThen (first : Call (Except Fault α)) (next : α → Except Fault ε) : Call (Except Fault ε) := do
  return (← first) >>= next

/-- Stores a pair under an identifier that is not taken. -/
def store (v : Vault) (id : String) (password : Octets) (pair : Pki.KeyPair) :
    Call (Except Fault Unit) := do
  -- in front of the attempts: all of them write the same record
  let noise ← Program.request .draw
  let fields := v.sealing.sealPair password noise pair
  andThen (v.persist (transact (.insert (v.recordKey id) fields))) fun inserted =>
    if inserted then .ok () else .error (.idExists id)

/-- The pair of a record that was read. -/
def openFound (v : Vault) (id : String) (password : Octets) (r : Record) : Except Fault Pki.KeyPair :=
  if r.isEmpty then .error (.notFound id) else v.sealing.openRecord password r

/-- The pair under an identifier. -/
def get (v : Vault) (id : String) (password : Octets) : Call (Except Fault Pki.KeyPair) :=
  andThen (transact (.read (v.recordKey id))) (v.openFound id password)

/-- The identifiers in order, from `offset` on and at most `limit` of them. -/
def list (v : Vault) (offset limit : Nat) : Call (Except Fault (List String)) :=
  andThen (transact (.scan v.space)) fun keys =>
    .ok ((((keys.filterMap v.identifier?).mergeSort (· ≤ ·)).drop offset).take limit)

/-- Gives a pair another identifier. -/
def updateId (v : Vault) (oldId newId : String) : Call (Except Fault Unit) :=
  andThen (v.persist (transact (.rename (v.recordKey oldId) (v.recordKey newId)))) fun
    | .renamed => .ok ()
    | .sourceMissing => .error (.notFound oldId)
    | .targetExists => .error (.idExists newId)

/-- The fields of a record under a new password. -/
def resealed (v : Vault) (id : String) (oldPassword newPassword : Octets) (noise : Noise)
    (r : Record) : Except Fault (List Field) := do
  let pair ← v.openFound id oldPassword r
  return v.sealing.sealPair newPassword noise pair

/-- Seals a pair under a new password. -/
def updatePassword (v : Vault) (id : String) (oldPassword newPassword : Octets) :
    Call (Except Fault Unit) :=
  v.persist do
    -- within the attempt: each one seals with octets of its own
    let noise ← Program.request .draw
    let change := v.resealed id oldPassword newPassword noise
    andThen (transact (.update (v.recordKey id) change)) fun done => done

/-- Takes a pair out. -/
def delete (v : Vault) (id : String) : Call (Except Fault Unit) :=
  andThen (transact (.delete (v.recordKey id))) fun deleted =>
    if deleted then .ok () else .error (.notFound id)

/-- Asks whether the store is in reach. -/
def ping : Call (Except Fault Unit) := transact .ping

end Vault
end FiscalGateway
