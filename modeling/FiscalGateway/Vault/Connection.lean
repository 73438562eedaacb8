import FiscalGateway.Settings.Basic
import FiscalGateway.Vault.Store

/-!
# Connecting to the store

The store that the settings name. Only the store in memory is part of this program; one on the
network is out of reach, and why is a detail of the network.
-/

namespace FiscalGateway

/-- The store that the settings name, as it is before anything is stored. -/
def VaultSettings.connect (v : VaultSettings) : Except Vault.StoreFault Vault.Store :=
  match v.kind with
  | .memory => .ok .empty
  | .redis => .error (.backend "*")

end FiscalGateway
