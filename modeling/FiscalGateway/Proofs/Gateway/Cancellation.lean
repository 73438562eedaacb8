import FiscalGateway.Proofs.Gateway.Course
import FiscalGateway.Proofs.Gateway.Sending

/-!
# Cancellation — a write is not started, or it is not disturbed

A write asks for the token before it starts, and for nothing but the vault from then on. So a token
that is cancelled by then keeps it from starting, and one that is cancelled later is not noticed: not
between two attempts, not while the write sleeps (`write_undisturbed`).
-/

namespace FiscalGateway.Gateway

/-! ## Writes -/

/-- The operations that change what is stored. -/
inductive Write where
  | storeCert (now : Int) (id : String) (password bundle : Octets) (bundlePassword : String)
  | updateCertId (oldId newId : String)
  | updateCertPassword (id : String) (oldPassword newPassword : Octets)
  | deleteId (id : String)

namespace Write

/-- The operation that a write asks for. -/
def call (g : Gateway) : Write → Call (Outcome Unit)
  | storeCert now id password bundle bundlePassword =>
    g.storeCert now id password bundle bundlePassword
  | updateCertId oldId newId => g.updateCertId oldId newId
  | updateCertPassword id oldPassword newPassword =>
    g.updateCertPassword id oldPassword newPassword
  | deleteId id => g.deleteId id

/-- What a write asks of the vault. A bundle that is rejected asks for nothing. -/
def request (g : Gateway) : Write → Except Pki.Rejection Vault.Request
  | storeCert now id password bundle bundlePassword =>
    (Pki.importBundle bundle bundlePassword g.merchantRoots now).map (.store id password)
  | updateCertId oldId newId => .ok (.updateId oldId newId)
  | updateCertPassword id oldPassword newPassword =>
    .ok (.updatePassword id oldPassword newPassword)
  | deleteId id => .ok (.delete id)

/-- Why a write is not started: its bundle is rejected, or it is cancelled. -/
def refusal (g : Gateway) (w : Write) : GatewayFault :=
  match w.request g with
  | .error rejection => .invalidMerchantCert rejection
  | .ok _ => .cancelled

variable {g : Gateway} {w : Write}

/-- A rejected bundle is all that there is to say. -/
theorem call_of_error {rejection : Pki.Rejection} (h : w.request g = .error rejection) :
    w.call g = .done (.error (.invalidMerchantCert rejection)) := by
  cases w with
  | storeCert now id password bundle bundlePassword =>
    rw [request] at h
    rw [call, Gateway.storeCert]
    cases himport : Pki.importBundle bundle bundlePassword g.merchantRoots now with
    | error rejection' =>
      rw [himport] at h
      cases h
      rfl
    | ok pair =>
      rw [himport] at h
      contradiction
  | updateCertId oldId newId => contradiction
  | updateCertPassword id oldPassword newPassword => contradiction
  | deleteId id => contradiction

section Bundle

variable {now : Int} {id : String} {password bundle : Octets} {bundlePassword : String}

/-- The pair of a bundle that is accepted is to be stored. -/
theorem request_storeCert {r : Vault.Request} :
    (storeCert now id password bundle bundlePassword).request g = .ok r ↔
      ∃ pair, Pki.importBundle bundle bundlePassword g.merchantRoots now = .ok pair ∧
        r = .store id password pair := by
  rw [request]
  cases Pki.importBundle bundle bundlePassword g.merchantRoots now with
  | error rejection =>
    constructor
    · intro h
      cases h
    · rintro ⟨_, h, -⟩
      cases h
  | ok pair =>
    constructor
    · intro h
      exact ⟨pair, rfl, (Except.ok.inj h).symm⟩
    · rintro ⟨_, h, rfl⟩
      cases h
      rfl

theorem call_storeCert {pair : Pki.KeyPair}
    (h : Pki.importBundle bundle bundlePassword g.merchantRoots now = .ok pair) :
    (storeCert now id password bundle bundlePassword).call g =
      committing (ofVault (g.vault.store id password pair)) := by
  rw [call, Gateway.storeCert, h]

end Bundle

/-- **A write runs what it asks of the vault** once the token was asked. -/
theorem exists_call {r : Vault.Request} (h : w.request g = .ok r) :
    ∃ c : Vault.Call (Except Vault.Fault Unit), w.call g = committing (ofVault c) ∧
      r.call g.vault = Vault.andThen c fun _ => .ok .done := by
  cases w with
  | storeCert now id password bundle bundlePassword =>
    obtain ⟨pair, himport, rfl⟩ := request_storeCert.1 h
    exact ⟨g.vault.store id password pair, call_storeCert himport, rfl⟩
  | updateCertId oldId newId =>
    cases h
    exact ⟨g.vault.updateId oldId newId, rfl, rfl⟩
  | updateCertPassword id oldPassword newPassword =>
    cases h
    exact ⟨g.vault.updatePassword id oldPassword newPassword, rfl, rfl⟩
  | deleteId id =>
    cases h
    exact ⟨g.vault.delete id, rfl, rfl⟩

end Write

/-! ## Tokens -/

/-- The course of events with a token that is never cancelled. -/
def Course.uncancelled (s : Course) : Course :=
  ⟨{ s.world with token := .never }, s.weather, .const false⟩

theorem Course.isCancelled_uncancelled (s : Course) : s.uncancelled.isCancelled = false := rfl

/-- The vault never says that it was cancelled. -/
theorem toGateway_ne_cancelled (f : Vault.Fault) : f.toGateway ≠ .cancelled := by
  cases f <;> exact nofun

/-- A write that starts ends with what the vault says. -/
theorem runOn_committing_ofVault {c : Vault.Call (Except Vault.Fault Unit)} {s : Course}
    (h : s.isCancelled = false) :
    ∃ s', (committing (ofVault c)).runOn s =
        (some ((c.runOn s.idle.vault).1.mapError Vault.Fault.toGateway), s') ∧
      s'.vault = (c.runOn s.idle.vault).2 := by
  obtain ⟨s', hrun, hvault, -⟩ := runOn_ofVault c s.idle
  refine ⟨s', ?_, hvault⟩
  rw [runOn_committing, h, if_neg Bool.false_ne_true, hrun]

/-- **A write is not started, or it is not disturbed.** If the token is cancelled by the time that
the write asks for it, the write is refused and no record changes. If it is cancelled later, whenever
that is, the write has the outcome and leaves the vault that it would have and leave if it were never
cancelled. So no record changes where a write says that it was cancelled. -/
theorem write_undisturbed (g : Gateway) (w : Write) (s : Course) :
    let ended := (w.call g).runOn s
    let uncancelled := (w.call g).runOn s.uncancelled
    (s.isCancelled = true →
        ended.1 = some (.error (w.refusal g)) ∧ ended.2.records = s.records) ∧
      (s.isCancelled = false → ended.1.isSome ∧ ended.1 = uncancelled.1 ∧
        ended.2.vault = uncancelled.2.vault ∧ ended.2.records = uncancelled.2.records) ∧
      (ended.1 = some (.error .cancelled) → ended.2.records = s.records) := by
  cases hr : w.request g with
  | error rejection =>
    have hrefusal : w.refusal g = .invalidMerchantCert rejection := by rw [Write.refusal, hr]
    rw [Write.call_of_error hr, hrefusal]
    exact ⟨fun _ => ⟨rfl, rfl⟩, fun _ => ⟨rfl, rfl, rfl, rfl⟩, fun _ => rfl⟩
  | ok r =>
    obtain ⟨c, hcall, -⟩ := Write.exists_call hr
    have hrefusal : w.refusal g = .cancelled := by rw [Write.refusal, hr]
    rw [hcall, hrefusal]
    cases hs : s.isCancelled with
    | true =>
      rw [runOn_committing, hs, if_pos rfl]
      exact ⟨fun _ => ⟨rfl, rfl⟩, nofun, fun _ => rfl⟩
    | false =>
      obtain ⟨s', hrun, hvault⟩ := runOn_committing_ofVault (c := c) hs
      obtain ⟨s'', hrun', hvault'⟩ :=
        runOn_committing_ofVault (c := c) s.isCancelled_uncancelled
      -- the vault sees the same course of events in both
      have hsame : s'.vault = s''.vault := hvault.trans hvault'.symm
      rw [hrun, hrun']
      refine ⟨nofun, fun _ => ⟨rfl, rfl, hsame, congrArg Vault.Course.records hsame⟩, ?_⟩
      intro hcancelled
      cases hout : (c.runOn s.idle.vault).1 with
      | ok a =>
        rw [hout] at hcancelled
        cases hcancelled
      | error f =>
        rw [hout] at hcancelled
        exact absurd (Except.error.inj (Option.some.inj hcancelled)) (toGateway_ne_cancelled f)

/-- Two conflicts, and a token that is cancelled while the write sleeps after the first of them. -/
example :
    let g : Gateway :=
      { specimenGateway with vault := { specimenGateway.vault with policy := .standard } }
    let w : World := { specimenWorld with
      vault := { specimenWorld.vault with
        store := { specimenWorld.vault.store with pendingConflicts := 2 } }
      token := ⟨false, some 5⟩ }
    let ended := ((Write.updateCertId "a" "b").call g).runOn w.calm
    ended.1.map Except.isOk = some true ∧ ended.2.records.keys = ["eet:b"] ∧
      ended.2.isCancelled = true := by
  decide +kernel

end FiscalGateway.Gateway
