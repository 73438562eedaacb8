import FiscalGateway.Gateway.World
import FiscalGateway.Proofs.Gateway.Request
import FiscalGateway.Proofs.Vault.Quiet

/-!
# Sending — what leaves the gateway

Whatever the registry does about it, a valid sale for a pair that opens is sent once, as a request
that carries it (`sendSale_emits`). The operation is run piece by piece: reading the pair and
building the request take no time and change nothing, so the token is still what it was when the
request is sent.
-/

namespace FiscalGateway.Gateway

variable {α β : Type} {w : World}

/-! ## Running a computation -/

/-- Computations in sequence are run in sequence; behind one that takes for ever nothing is run. -/
theorem run_bind (c : Call α) (f : α → Call β) (w : World) :
    Call.run (c >>= f) w = (Call.run c w).bind fun (a, after) => Call.run (f a) after := by
  simp only [Call.run, Program.eval_bind]
  rfl

/-- A single request is performed. -/
theorem run_request (r : Effect α) (w : World) : Call.run (Program.request r) w = r.perform w := by
  have hperform : (Program.eval Effect.perform (Program.request r) : StateT World Option α) =
      (r.perform : StateT World Option α) >>= pure := rfl
  rw [Call.run, hperform, bind_pure]
  rfl

/-- A computation of the vault changes the vault only. -/
theorem run_lift (c : Vault.Call α) (w : World) :
    Call.run (Program.lift Effect.vault c) w =
      some ((Vault.Call.run c w.vault).1, { w with vault := (Vault.Call.run c w.vault).2 }) := by
  induction c generalizing w with
  | done a => rfl
  | ask r next ih =>
    exact ih (r.perform w.vault).1 { w with vault := (r.perform w.vault).2 }

theorem run_ofVault (c : Vault.Call (Except Vault.Fault α)) (w : World) :
    Call.run (ofVault c) w = some ((Vault.Call.run c w.vault).1.mapError Vault.Fault.toGateway,
      { w with vault := (Vault.Call.run c w.vault).2 }) := by
  rw [ofVault, run_bind, run_lift]
  rfl

/-- What is not cancelled is run. -/
theorem run_cancellable (h : w.token.isCancelled w.vault.clock = false) (c : Call (Outcome α)) :
    Call.run (cancellable c) w = Call.run c w := by
  have hask : Call.run (Program.request .isCancelled) w = some (false, w) := by
    rw [run_request, ← h]
    rfl
  rw [cancellable, run_bind, hask]
  rfl

/-- What comes behind a success is run. -/
theorem run_andThen {first : Call (Outcome α)} {a : α} {after : World}
    (h : Call.run first w = some (.ok a, after)) (next : α → Call (Outcome β)) :
    Call.run (andThen first next) w = Call.run (next a) after := by
  rw [andThen, run_bind, h]
  rfl

/-- Reading a pair takes no time. -/
theorem run_get {g : Gateway} {id : String} {password : Octets} {pair : Pki.KeyPair}
    (hopen : (Vault.Call.run (g.vault.get id password) w.vault).1 = .ok pair) :
    Call.run (ofVault (g.vault.get id password)) w = some (.ok pair, w) := by
  rw [run_ofVault, hopen, Vault.run_get_snd]
  rfl

/-! ## Sending -/

/-- What becomes of a sale once its envelope was sent. -/
def conclude (g : Gateway) (request : Uuid) :
    Option (Except TransportFault Octets) → Outcome Soap.Response
  | none => .error .cancelled
  | some (.error fault) => .error (.authorityUnreachable fault)
  | some (.ok answer) => (g.verifier.verify answer request).mapError Soap.VerifyFault.toGateway

/-- By then no fault of building a request can occur. -/
theorem conclude_ne_requestBuild (g : Gateway) (request : Uuid)
    (answer : Option (Except TransportFault Octets)) (reason : String) :
    g.conclude request answer ≠ .error (.requestBuild reason) := by
  have hverify : ∀ f : Soap.VerifyFault, f.toGateway ≠ .requestBuild reason := by
    intro f
    unfold Soap.VerifyFault.toGateway
    split <;> simp
  unfold conclude
  split
  · simp
  · simp
  · next bytes =>
    cases g.verifier.verify bytes request with
    | ok r => simp [Except.mapError]
    | error f => simpa [Except.mapError] using hverify f

/-- **The registry notes each envelope that is sent**, and the vault is as it was. -/
theorem send_eq_some {envelope : Octets} {answer : Option (Except TransportFault Octets)}
    {after : World} (h : w.send envelope = some (answer, after)) :
    after.registry.received = envelope :: w.registry.received ∧
      after.vault.store = w.vault.store := by
  unfold World.send at h
  dsimp only at h
  split at h
  · obtain ⟨clock, -, hafter⟩ := Option.map_eq_some_iff.1 h
    obtain ⟨-, rfl⟩ := Prod.mk.inj hafter
    exact ⟨rfl, rfl⟩
  · split at h
    all_goals
      obtain ⟨-, rfl⟩ := Prod.mk.inj (Option.some.inj h)
      exact ⟨rfl, rfl⟩

/-- **A sale whose request was built** is sent, and then concluded. -/
theorem run_sendSale {g : Gateway} {now : Time.Timestamp} {id : String} {password : Octets}
    {sale : Sale} {pair : Pki.KeyPair} {envelope : Octets}
    (hopen : (Vault.Call.run (g.vault.get id password) w.vault).1 = .ok pair)
    (hlive : w.token.isCancelled w.vault.clock = false)
    (hvalid : (sale.fillTimes now).validate = .ok ())
    (hbuild : buildRequest (sale.fillTimes now) pair = .ok envelope) :
    Call.run (g.sendSale now id password sale) w =
      (w.send envelope).map fun (answer, after) => (g.conclude sale.uuid answer, after) := by
  have hget : Call.run (cancellable (ofVault (g.vault.get id password))) w =
      some (.ok pair, w) := by
    rw [run_cancellable hlive, run_get hopen]
  have hrequest : Call.run (pure (buildRequest (sale.fillTimes now) pair)) w =
      some (.ok envelope, w) := by
    rw [hbuild]
    rfl
  have hsend : Call.run (Program.request (.send envelope)) w = w.send envelope := run_request _ w
  unfold sendSale
  simp only [hvalid]
  -- the token is asked again before the request is sent, but in the same world
  rw [run_andThen hget, run_andThen hrequest, andThen, run_bind, send, run_cancellable hlive,
    run_bind, hsend]
  cases w.send envelope with
  | none => rfl
  | some sent =>
    obtain ⟨answer, after⟩ := sent
    cases answer with
    | none => rfl
    | some outcome => cases outcome <;> rfl

/-- **Every request that is sent is consistent.** For a valid sale and a pair that opens, one
envelope is sent, whatever the registry does about it: it carries the sale, and both of its
signatures are good under the certificate of the pair. Building it never fails. -/
theorem sendSale_emits {g : Gateway} {now : Time.Timestamp} {id : String} {password : Octets}
    {sale : Sale} {pair : Pki.KeyPair}
    (hopen : (Vault.Call.run (g.vault.get id password) w.vault).1 = .ok pair)
    (hlive : w.token.isCancelled w.vault.clock = false)
    (hvalid : (sale.fillTimes now).validate = .ok ()) (hagrees : pair.rsa.Agrees) :
    ∃ (envelope : Octets) (_ : SignedReceipt envelope (sale.fillTimes now) pair.certificate),
      Call.run (g.sendSale now id password sale) w =
          (w.send envelope).map (fun (answer, after) => (g.conclude sale.uuid answer, after)) ∧
        ∀ outcome after, Call.run (g.sendSale now id password sale) w = some (outcome, after) →
          after.registry.received = envelope :: w.registry.received ∧
            ∀ reason, outcome ≠ .error (.requestBuild reason) := by
  obtain ⟨envelope, request, hbuild⟩ :=
    exists_buildRequest (Sale.validate_eq_ok.1 hvalid) rfl rfl hagrees
  have hrun := run_sendSale hopen hlive hvalid hbuild
  refine ⟨envelope, request, hrun, fun outcome after hdone => ?_⟩
  rw [hrun, Option.map_eq_some_iff] at hdone
  obtain ⟨⟨answer, sent⟩, hsent, hconcluded⟩ := hdone
  obtain ⟨rfl, rfl⟩ := Prod.mk.inj hconcluded
  exact ⟨(send_eq_some hsent).1, conclude_ne_requestBuild g sale.uuid answer⟩

def specimenGateway : Gateway :=
  ⟨⟨.transparent, .withMaxAttempts 1, "eet:"⟩, { pool := .empty }, ⟨fun _ => .ok (), "A"⟩⟩

/-- A world with one pair under the password `1`, and a registry that answers with nothing. -/
def specimenWorld : World where
  vault := ⟨⟨Table.empty.put "eet:a" (Vault.Sealing.transparent.record [1] Vault.specimenNoise
    .specimen), 0, true⟩, 0, fun _ => Vault.specimenNoise, 0⟩
  registry := ⟨[⟨3, .answer (.ok [])⟩], true, []⟩
  token := .never

def specimenTime : Time.Timestamp :=
  ⟨⟨2020, 1, 1⟩, ⟨0, 0, 0, 0⟩, 0, by decide, by decide, by decide, by decide⟩

/-- A sale without times, with codes that its client made up. -/
def specimenSale : Sale where
  uuid := ⟨[0, 0, 0, 0, 0, 0, 0x40, 0, 0x80, 0, 0, 0, 0, 0, 0, 0], rfl⟩
  sentAt := none
  firstSending := true
  checkOnly := none
  taxId := "CZ12345678"
  delegateTaxId := none
  premises := 1
  register := "1"
  serial := "1"
  soldAt := none
  total := default
  amount := fun _ => none
  regime := .standard
  signatureCode := some [0]
  fingerprintCode := some "0"

/-- The codes that were made up are not in the request. -/
theorem sendSale_emits_specimen :
    ∃ (envelope : Octets) (_ : SignedReceipt envelope (specimenSale.fillTimes specimenTime)
        .specimen) (outcome : Outcome Soap.Response) (after : World),
      Call.run (specimenGateway.sendSale specimenTime "a" [1] specimenSale) specimenWorld =
        some (outcome, after) ∧ after.registry.received = [envelope] := by
  have hopen : (Vault.Call.run (specimenGateway.vault.get "a" [1]) specimenWorld.vault).1 =
      .ok .specimen := by
    have hquiet : specimenWorld.vault.Quiet := ⟨rfl, rfl⟩
    rw [Vault.run_get _ _ _ hquiet]
    exact Vault.Sealing.openRecord_record Vault.Sealing.transparent_lawful
  have hvalid : (specimenSale.fillTimes specimenTime).validate = .ok () :=
    Sale.validate_eq_ok.2 ⟨by decide, by decide, by decide, by decide, by decide, by decide,
      by decide⟩
  obtain ⟨envelope, request, hrun, hsent⟩ :=
    sendSale_emits hopen rfl hvalid Crypto.Rsa.PrivateKey.specimen_agrees
  have hdone : specimenWorld.send envelope = some (some (.ok []),
      { specimenWorld with
        vault := { specimenWorld.vault with clock := 3 }
        registry := ⟨[], true, [envelope]⟩ }) := rfl
  rw [hdone] at hrun
  exact ⟨envelope, request, _, _, hrun, (hsent _ _ hrun).1⟩

end FiscalGateway.Gateway
