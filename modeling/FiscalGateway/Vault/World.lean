import FiscalGateway.Vault.Operations

/-!
# Running the vault

A world for the operations: a store, a clock that only sleeping moves, and a supply of random
octets. `Call.run` runs an operation alone in a world.
-/

namespace FiscalGateway.Vault

/-- What surrounds the vault. -/
structure World where
  store : Store
  /-- Milliseconds since the start. -/
  clock : Nat
  /-- The random octets of each draw. -/
  noise : Nat → Noise
  /-- How many draws there were. -/
  drawn : Nat

/-- What an effect does. -/
def Effect.perform {α : Type} : Effect α → StateM World α
  | .transact t => fun w =>
    let (answer, store) := w.store.run t
    (answer, { w with store := store })
  | .sleep ms => fun w => ((), { w with clock := w.clock + ms })
  | .draw => fun w => (w.noise w.drawn, { w with drawn := w.drawn + 1 })

/-- Runs an operation. -/
def Call.run {α : Type} (c : Call α) (w : World) : α × World :=
  (Program.eval Effect.perform c : StateM World α).run w

end FiscalGateway.Vault
