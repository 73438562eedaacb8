import FiscalGateway.Proofs.Gateway.Course
import FiscalGateway.Proofs.Gateway.Sending

/-!
# Delivery — a sale is sent at most once

Whatever happens meanwhile, reading the pair sends nothing (`runOn_get`), sending is the one step
that adds an envelope (`runOn_send`), and each of the two fails in ways of its own. So the failure of
a sale tells whether it was sent (`sendSale_delivers`).
-/

namespace FiscalGateway.Gateway

/-! ## Kinds of failure -/

/-- The kinds of failure of a sale that was not sent. -/
def unsentKinds : List FaultKind :=
  [.invalidSale, .certNotFound, .badCertPassword, .vaultUnavailable, .unexpected, .requestBuild]

/-- The kinds of failure of a sale that was sent. -/
def sentKinds : List FaultKind := [.responseParse, .responseVerify, .authorityUnreachable]

theorem notMem_unsentKinds {k : FaultKind} (h : k ∈ sentKinds) : k ∉ unsentKinds := by
  revert h
  cases k <;> decide

/-- A failure of the vault is none of a sale that was sent. -/
theorem kind_notMem_sentKinds (f : Vault.Fault) : f.toGateway.kind ∉ sentKinds := by
  cases f <;> simp [Vault.Fault.toGateway, GatewayFault.kind, sentKinds]

/-- A failed answer is one to a sale that was sent. -/
theorem kind_mem_sentKinds (f : Soap.VerifyFault) : f.toGateway.kind ∈ sentKinds := by
  unfold Soap.VerifyFault.toGateway
  split <;> simp [GatewayFault.kind, sentKinds]

/-- A request that cannot be built is not sent. -/
theorem kind_buildRequest {sale : Sale} {pair : Pki.KeyPair} {f : GatewayFault}
    (h : buildRequest sale pair = .error f) : f.kind = .requestBuild := by
  simp only [buildRequest, Outcome.bind_eq_error, Outcome.mapError_eq_error] at h
  rcases h with ⟨_, -, rfl⟩ | ⟨_, -, ⟨_, -, rfl⟩ | ⟨_, -, ⟨_, -, rfl⟩ | ⟨_, -, h⟩⟩⟩
  · rfl
  · rfl
  · rfl
  · contradiction

/-! ## The two waits -/

/-- **Reading the pair** sends nothing and changes no record. -/
theorem runOn_get (v : Vault) (id : String) (password : Octets) (s : Course) :
    ∃ outcome s', (cancellable (ofVault (v.get id password))).runOn s = (some outcome, s') ∧
      s'.records = s.records ∧ s'.received = s.received ∧
      ∀ f, outcome = .error f → f.kind ∉ sentKinds := by
  rw [runOn_cancellable]
  split
  · exact ⟨_, _, rfl, rfl, rfl, fun f h => by cases h; decide⟩
  · obtain ⟨s', hrun, hvault, hregistry⟩ := runOn_ofVault (v.get id password) s.idle
    have hrecords : s'.records = s.records :=
      (congrArg Vault.Course.records hvault).trans (Vault.records_runOn_get v id password _)
    refine ⟨_, s', hrun, hrecords, congrArg Registry.received hregistry, fun f h => ?_⟩
    obtain ⟨fault, -, rfl⟩ := Outcome.mapError_eq_error.1 h
    exact kind_notMem_sentKinds fault

/-- **Sending** adds the envelope, unless it was cancelled before; then it says so. -/
theorem runOn_send (envelope : Octets) (s : Course) :
    ((send envelope).runOn s).2.records = s.records ∧
      (((send envelope).runOn s).2.received = s.received ∧
          ((send envelope).runOn s).1 = some (.error .cancelled) ∨
        ((send envelope).runOn s).2.received = envelope :: s.received ∧
          ∀ f, ((send envelope).runOn s).1 = some (.error f) → f.kind ∉ unsentKinds) := by
  rw [send, runOn_cancellable]
  split
  · exact ⟨rfl, .inl ⟨rfl, rfl⟩⟩
  · rw [runOn_bind, runOn_request, Effect.meet]
    dsimp only [Effect.perform]
    cases hsend : s.idle.next.send envelope with
    | none =>
      -- the wait never ends, but the registry has the envelope
      exact ⟨rfl, .inr ⟨rfl, fun f h => by cases h⟩⟩
    | some sent =>
      obtain ⟨answer, after⟩ := sent
      obtain ⟨hreceived, hstore⟩ := send_eq_some hsend
      have hrecords : after.vault.store.records = s.records :=
        (congrArg Vault.Store.records hstore).trans rfl
      cases answer with
      | none =>
        exact ⟨hrecords, .inr ⟨hreceived, fun f h => by cases h; decide⟩⟩
      | some outcome =>
        refine ⟨hrecords, .inr ⟨hreceived, fun f h => ?_⟩⟩
        obtain ⟨fault, -, rfl⟩ := Outcome.mapError_eq_error.1 (Option.some.inj h)
        simp [GatewayFault.kind, unsentKinds]

/-! ## A sale -/

/-- What a sale has come to: an outcome, unless it never ends, and a course of events. -/
abbrev Ended := Option (Outcome Soap.Response) × Course

/-- A sale that failed before it was sent. -/
structure Unsent (s : Course) (ended : Ended) : Prop where
  received : ended.2.received = s.received
  failed : ∃ f, ended.1 = some (.error f) ∧ f.kind ∉ sentKinds

/-- A sale that was sent once, whatever came of it. -/
structure Sent (s : Course) (ended : Ended) : Prop where
  received : ∃ envelope, ended.2.received = envelope :: s.received
  kind : ∀ f, ended.1 = some (.error f) → f.kind ∉ unsentKinds

/-- A sale that changed no record and was sent at most once. -/
structure Concluded (s : Course) (ended : Ended) : Prop where
  records : ended.2.records = s.records
  sent : Unsent s ended ∨ Sent s ended

/-- A failure before anything was sent. -/
theorem Concluded.of_error {s s' : Course} {f : GatewayFault} (hrecords : s'.records = s.records)
    (hreceived : s'.received = s.received) (hkind : f.kind ∉ sentKinds) :
    Concluded s (some (.error f), s') :=
  ⟨hrecords, .inl ⟨hreceived, f, rfl, hkind⟩⟩

/-- Nothing has been done before. -/
theorem Concluded.of_eq {s s' : Course} {ended : Ended} (h : Concluded s' ended)
    (hrecords : s'.records = s.records) (hreceived : s'.received = s.received) :
    Concluded s ended where
  records := h.records.trans hrecords
  sent := h.sent.imp (fun h => ⟨h.received.trans hreceived, h.failed⟩)
    fun h => ⟨hreceived ▸ h.received, h.kind⟩

/-- **Once the request is built**, the sale is sent, or cancelled before. -/
theorem concluded_send (g : Gateway) (request : Uuid) (envelope : Octets) (s : Course) :
    Concluded s ((andThen (send envelope) fun answer =>
      return (g.verifier.verify answer request).mapError Soap.VerifyFault.toGateway).runOn s) := by
  obtain ⟨hrecords, hsent⟩ := runOn_send envelope s
  rw [runOn_andThen]
  generalize (send envelope).runOn s = sent at hrecords hsent
  obtain ⟨answer, s'⟩ := sent
  rcases hsent with ⟨hreceived, rfl⟩ | ⟨hreceived, hkind⟩
  · exact .of_error hrecords hreceived (by decide)
  · match answer with
    | none => exact ⟨hrecords, .inr ⟨⟨envelope, hreceived⟩, fun f h => by cases h⟩⟩
    | some (.error f) =>
      refine ⟨hrecords, .inr ⟨⟨envelope, hreceived⟩, fun f' hf => ?_⟩⟩
      cases hf
      exact hkind f rfl
    | some (.ok answer) =>
      refine ⟨hrecords, .inr ⟨⟨envelope, hreceived⟩, fun f hf => ?_⟩⟩
      obtain ⟨fault, -, rfl⟩ := Outcome.mapError_eq_error.1 (Option.some.inj hf)
      exact notMem_unsentKinds (kind_mem_sentKinds fault)

/-- **Each step is left for the next one or ends the sale.** -/
theorem concluded_sendSale (g : Gateway) (now : Time.Timestamp) (id : String) (password : Octets)
    (sale : Sale) (s : Course) : Concluded s ((g.sendSale now id password sale).runOn s) := by
  unfold sendSale
  cases hvalid : (sale.fillTimes now).validate with
  | error violation =>
    simp only [hvalid]
    exact .of_error rfl rfl (by simp [GatewayFault.kind, sentKinds])
  | ok _ =>
    simp only [hvalid]
    -- nothing was sent so far, so what the rest has sent is all
    obtain ⟨outcome, s', hget, hrecords, hreceived, hkind⟩ := runOn_get g.vault id password s
    rw [runOn_andThen, hget]
    cases outcome with
    | error f => exact .of_error hrecords hreceived (hkind f rfl)
    | ok pair =>
      have hbuild : Call.runOn (pure (buildRequest (sale.fillTimes now) pair)) s' =
          (some (buildRequest (sale.fillTimes now) pair), s') := rfl
      dsimp only
      rw [runOn_andThen, hbuild]
      cases henvelope : buildRequest (sale.fillTimes now) pair with
      | error f =>
        -- what cannot be built is not sent
        refine .of_error hrecords hreceived ?_
        rw [kind_buildRequest henvelope]
        decide
      | ok envelope =>
        exact (concluded_send g (sale.fillTimes now).uuid envelope s').of_eq hrecords hreceived

/-- **A sale is sent at most once, and only when it may be.** Whatever the vault holds, the registry
does and the token is subject to, no record changes and at most one envelope is sent: none if the
sale failed before, and one if it succeeded or failed behind. That is so also for a sale that never
ends. -/
theorem sendSale_delivers (g : Gateway) (now : Time.Timestamp) (id : String) (password : Octets)
    (sale : Sale) (s : Course) :
    let ended := (g.sendSale now id password sale).runOn s
    ended.2.records = s.records ∧
      (ended.2.received = s.received ∨ ∃ envelope, ended.2.received = envelope :: s.received) ∧
      (∀ f, ended.1 = some (.error f) → f.kind ∈ unsentKinds → ended.2.received = s.received) ∧
      (∀ f, ended.1 = some (.error f) → f.kind ∈ sentKinds →
        ∃ envelope, ended.2.received = envelope :: s.received) ∧
      ∀ response, ended.1 = some (.ok response) →
        ∃ envelope, ended.2.received = envelope :: s.received := by
  obtain ⟨hrecords, hunsent | hsent⟩ := concluded_sendSale g now id password sale s
  · obtain ⟨hreceived, f, hf, hkind⟩ := hunsent
    refine ⟨hrecords, .inl hreceived, fun _ _ _ => hreceived, fun f' hf' hkind' => ?_,
      fun response hresponse => ?_⟩
    · rw [hf] at hf'
      cases hf'
      exact absurd hkind' hkind
    · rw [hf] at hresponse
      cases hresponse
  · refine ⟨hrecords, .inr hsent.received, fun f hf hkind => ?_, fun _ _ _ => hsent.received,
      fun _ _ => hsent.received⟩
    exact absurd hkind (hsent.kind f hf)

end FiscalGateway.Gateway
