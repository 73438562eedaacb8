import FiscalGateway.Gateway.Operations
import FiscalGateway.Vault.World

/-!
# Running the gateway

A world for the operations: that of the vault, a registry that answers by a script, and a token.
Only sleeping and waiting for the registry take time. The registry notes every envelope when it is
sent, whether an answer comes or not.
-/

namespace FiscalGateway.Gateway

/-- What the registry does about an envelope. -/
inductive Reaction where
  | answer (outcome : Except TransportFault Octets)
  /-- There is never an answer. -/
  | silence

/-- An entry of the script: a reaction after some milliseconds. -/
structure Reply where
  delay : Nat
  reaction : Reaction

/-- A registry. -/
structure Registry where
  /-- The replies to come. -/
  script : List Reply
  healthy : Bool
  /-- The envelopes that came, the latest first. -/
  received : List Octets

/-- The status of a registry that is out of order. -/
def outOfOrder : TransportFault := .status 503

/-- The reply to the next envelope, and the registry after it. -/
def Registry.take (r : Registry) (envelope : Octets) : Reply × Registry :=
  let after : Registry := { r with script := r.script.drop 1, received := envelope :: r.received }
  (r.script.head?.getD ⟨0, .answer (.error outOfOrder)⟩, after)

/-- A token: it may be cancelled already, or be going to be at some time. -/
structure Token where
  cancelled : Bool
  due : Option Nat
  deriving DecidableEq, Repr

namespace Token

/-- A token that is never cancelled. -/
def never : Token := ⟨false, none⟩

/-- Whether the token is cancelled at a time. Who gets to work at the very moment at which it is
due is still in front of it. -/
def isCancelled (t : Token) (clock : Nat) : Bool := t.cancelled || t.due.any (· < clock)

/-- The time at which a wait that begins at `clock` is given up. -/
def interruption? (t : Token) (clock : Nat) : Option Nat :=
  if t.cancelled then some clock else t.due.map (max clock)

end Token

/-- What surrounds the gateway. -/
structure World where
  vault : Vault.World
  registry : Registry
  token : Token

namespace World

/-- Moves the clock. -/
def setClock (w : World) (clock : Nat) : World := { w with vault := { w.vault with clock := clock } }

/-- Gives up a wait at a time. -/
def interrupt (w : World) (clock : Nat) : World := { w.setClock clock with token := ⟨true, none⟩ }

/-- Sends an envelope. There is no outcome if the wait never ends. -/
def send (w : World) (envelope : Octets) :
    Option (Option (Except TransportFault Octets) × World) :=
  let (reply, registry) := w.registry.take envelope
  let w := { w with registry := registry }
  let interruption? := w.token.interruption? w.vault.clock
  match reply.reaction with
  | .silence => interruption?.map fun clock => (none, w.interrupt clock)
  | .answer outcome =>
    let finish := w.vault.clock + reply.delay
    match interruption?.filter (· < finish) with
    | some clock => some (none, w.interrupt clock)
    | none => some (some outcome, w.setClock finish)

end World

/-- What an effect does; there is no result if it takes for ever. -/
def Effect.perform {α : Type} : Effect α → StateT World Option α
  | .vault effect => fun w =>
    let (a, after) := effect.perform w.vault
    some (a, { w with vault := after })
  | .isCancelled => fun w => some (w.token.isCancelled w.vault.clock, w)
  | .send envelope => fun w => w.send envelope
  | .probe => fun w => some (if w.registry.healthy then .ok () else .error outOfOrder, w)

/-- Runs an operation, unless it takes for ever. -/
def Call.run {α : Type} (c : Call α) (w : World) : Option (α × World) :=
  (Program.eval Effect.perform c : StateT World Option α).run w

end FiscalGateway.Gateway
