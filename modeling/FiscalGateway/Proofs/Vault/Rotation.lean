import FiscalGateway.Proofs.Vault.Alone

/-!
# Rotations — callers that change one password at the same time

Callers that know the password of a record race to change it. One at a time in the order of their
effects, the first of them succeeds and each other one finds that its password is the wrong one
(`InTurn.rotated`). So it is for callers side by side, and `linearizable` says both: every run is
explained by an order of its calls, and at most one of the racing callers wins.
-/

namespace FiscalGateway.Vault

/-! ## One rotation -/

section Alone

variable {v : Vault} {records : Table Record} {id : String} {noise : Noise}
  {passwords : List Octets} {noises : List Noise} {pair : Pki.KeyPair}

/-- **A password is changed** if the old one is the current one. -/
theorem serveAlone_updatePassword_record (hlawful : v.sealing.Lawful)
    (hs : v.sealing.Separates passwords noises [pair]) {current old : Octets} {sealing : Noise}
    (hcurrent : current ∈ passwords) (hold : old ∈ passwords) (hsealing : sealing ∈ noises)
    (hrecord : records.get? (v.recordKey id) = some (v.sealing.record current sealing pair))
    (new : Octets) :
    v.serveAlone records (.updatePassword id old new) noise =
      if old = current then
        (.ok .done, records.put (v.recordKey id) (v.sealing.record new noise pair))
      else (.error .badPassword, records) := by
  have hfound : (Store.quiet records).record (v.recordKey id) =
      v.sealing.record current sealing pair := by
    have hget : (Store.quiet records).record (v.recordKey id) =
        (records.get? (v.recordKey id)).getD .empty := rfl
    rw [hget, hrecord, Option.getD_some]
  rw [serveAlone_updatePassword, hfound,
    openFound_record hlawful hs hcurrent hold hsealing List.mem_cons_self id]
  by_cases he : old = current
  · simp only [if_pos he, Sealing.putAll_record]
  · simp only [if_neg he]

end Alone

/-! ## Rotations in turn -/

/-- **A race for one password**: one record that the old password opens, and whoever names its
identifier wants to give it another password instead. -/
structure Race {ι : Type} (v : Vault) (requests : ι → Request) (id : String) (old : Octets)
    (pair : Pki.KeyPair) (passwords : List Octets) (noises : List Noise) : Prop where
  lawful : v.sealing.Lawful
  separates : v.sealing.Separates passwords noises [pair]
  old_mem : old ∈ passwords
  only : ∀ i, id ∈ (requests i).identifiers →
    ∃ new ∈ passwords, new ≠ old ∧ requests i = .updatePassword id old new

namespace InTurn

variable {ι : Type} {v : Vault} {requests : ι → Request} {id : String} {old : Octets}
  {pair : Pki.KeyPair} {passwords : List Octets} {noises : List Noise}
  {reply? : ι → Option (Except Fault Reply)} {before after : Table Record}
  {order : List (ι × Noise)}

/-- Once the password is another one, who comes is too late. -/
theorem late (hrace : Race v requests id old pair passwords noises)
    (h : InTurn v requests reply? before order after) {current : Octets} {sealing : Noise}
    (hcurrent : current ∈ passwords) (hne : old ≠ current) (hsealing : sealing ∈ noises)
    (hrecord : before.get? (v.recordKey id) = some (v.sealing.record current sealing pair)) :
    after.get? (v.recordKey id) = some (v.sealing.record current sealing pair) ∧
      ∀ x ∈ order, id ∈ (requests x.1).identifiers → reply? x.1 = some (.error .badPassword) := by
  induction h with
  | nil => exact ⟨hrecord, by simp⟩
  | cons hserve hreply _ ih =>
    next before between after i noise reply order _ =>
    by_cases hid : id ∈ (requests i).identifiers
    · -- who names the identifier comes with the old password, which opens nothing any more
      obtain ⟨new, -, -, hrequest⟩ := hrace.only i hid
      rw [hrequest, serveAlone_updatePassword_record hrace.lawful hrace.separates hcurrent
        hrace.old_mem hsealing hrecord, if_neg hne] at hserve
      obtain ⟨rfl, rfl⟩ := Prod.mk.inj hserve
      obtain ⟨hafter, hrest⟩ := ih hrecord
      exact ⟨hafter, List.forall_mem_cons.2 ⟨fun _ => hreply, hrest⟩⟩
    · -- somebody else leaves the record alone
      have hkeep := get?_serveAlone v before noise hid
      rw [hserve, hrecord] at hkeep
      obtain ⟨hafter, hrest⟩ := ih hkeep
      exact ⟨hafter, List.forall_mem_cons.2 ⟨fun h => absurd h hid, hrest⟩⟩

/-- **In turn, the first wins**: nobody names the identifier, and the record is what it was, or the
first one who does succeeds, its password is the current one from then on, and all others fail. -/
theorem rotated (hrace : Race v requests id old pair passwords noises)
    (h : InTurn v requests reply? before order after) {sealing : Noise}
    (hsealing : sealing ∈ noises)
    (hrecord : before.get? (v.recordKey id) = some (v.sealing.record old sealing pair))
    (hnoises : ∀ x ∈ order, id ∈ (requests x.1).identifiers → x.2 ∈ noises) :
    (∀ x ∈ order, id ∉ (requests x.1).identifiers) ∧
        after.get? (v.recordKey id) = some (v.sealing.record old sealing pair) ∨
      ∃ x ∈ order, ∃ new ∈ passwords, requests x.1 = .updatePassword id old new ∧
        reply? x.1 = some (.ok .done) ∧ x.2 ∈ noises ∧
        after.get? (v.recordKey id) = some (v.sealing.record new x.2 pair) ∧
        ∀ y ∈ order, id ∈ (requests y.1).identifiers → y = x ∨
          reply? y.1 = some (.error .badPassword) := by
  induction h with
  | nil => exact .inl ⟨by simp, hrecord⟩
  | cons hserve hreply hrest ih =>
    next before between after i noise reply order =>
    rw [List.forall_mem_cons] at hnoises
    by_cases hid : id ∈ (requests i).identifiers
    · -- the first of those who race: it wins, and all behind it are late
      obtain ⟨new, hnew, hne, hrequest⟩ := hrace.only i hid
      rw [hrequest, serveAlone_updatePassword_record hrace.lawful hrace.separates hrace.old_mem
        hrace.old_mem hsealing hrecord, if_pos rfl] at hserve
      obtain ⟨rfl, rfl⟩ := Prod.mk.inj hserve
      have hchanged : (before.put (v.recordKey id) (v.sealing.record new noise pair)).get?
          (v.recordKey id) = some (v.sealing.record new noise pair) := by
        rw [Table.get?_put, if_pos rfl]
      obtain ⟨hafter, hlate⟩ := hrest.late hrace hnew hne.symm (hnoises.1 hid) hchanged
      refine .inr ⟨(i, noise), List.mem_cons_self, new, hnew, hrequest, hreply, hnoises.1 hid,
        hafter, List.forall_mem_cons.2 ⟨fun _ => .inl rfl, fun y hy hy' => .inr (hlate y hy hy')⟩⟩
    · have hkeep := get?_serveAlone v before noise hid
      rw [hserve, hrecord] at hkeep
      rcases ih hkeep hnoises.2 with ⟨hnobody, hafter⟩ | ⟨x, hx, new, hnew, hrequest, hwon, hlast⟩
      · exact .inl ⟨List.forall_mem_cons.2 ⟨hid, hnobody⟩, hafter⟩
      · obtain ⟨hxnoise, hafter, hlate⟩ := hlast
        refine .inr ⟨x, List.mem_cons_of_mem _ hx, new, hnew, hrequest, hwon, hxnoise, hafter, ?_⟩
        exact List.forall_mem_cons.2 ⟨fun h => absurd h hid, hlate⟩

end InTurn

/-! ## Every run -/

section Runs

variable {ι : Type} {v : Vault} {requests : ι → Request} {id : String} {old : Octets}
  {pair : Pki.KeyPair} {passwords : List Octets} {noises : List Noise} {sealing : Noise}
  {store : Store} {history : List (Event ι)} {s : Callers ι} {order : List (ι × Noise)}

/-- Whether a call has succeeded. -/
def Callers.Succeeds (s : Callers ι) (i : ι) : Prop := ∃ reply, s.outcome? i = some (.ok reply)

theorem effect?_eq_ok_iff {p : Phase} {reply : Reply} :
    p.effect? = some (.ok reply) ↔ p.outcome? = some (.ok reply) := by
  unfold Phase.effect?
  split
  · next h => simp [h]
  · rfl

/-- **Who has won a race**: at most one caller; its password, or the old one if nobody has won, is
the one that opens the record. -/
structure Decided (v : Vault) (requests : ι → Request) (id : String) (old : Octets)
    (pair : Pki.KeyPair) (passwords : List Octets) (s : Callers ι) : Prop where
  unique : ∀ i j, id ∈ (requests i).identifiers → id ∈ (requests j).identifiers →
    s.Succeeds i → s.Succeeds j → i = j
  winner : ∀ i new, requests i = .updatePassword id old new → s.Succeeds i →
    ∀ password ∈ passwords, v.openFound id password (s.store.record (v.recordKey id)) =
      if password = new then .ok pair else .error .badPassword
  nobody : (∀ i, id ∈ (requests i).identifiers → ¬ s.Succeeds i) →
    ∀ password ∈ passwords, v.openFound id password (s.store.record (v.recordKey id)) =
      if password = old then .ok pair else .error .badPassword

/-- What the password of a record is, told by opening it. -/
theorem Race.openFound_eq (hrace : Race v requests id old pair passwords noises) {current : Octets}
    (hcurrent : current ∈ passwords) (hsealing : sealing ∈ noises)
    (hrecord : store.records.get? (v.recordKey id) =
      some (v.sealing.record current sealing pair)) :
    ∀ password ∈ passwords, v.openFound id password (store.record (v.recordKey id)) =
      if password = current then .ok pair else .error .badPassword := by
  intro password hpassword
  rw [Store.record, hrecord, Option.getD_some]
  exact openFound_record hrace.lawful hrace.separates hcurrent hpassword hsealing
    List.mem_cons_self id

/-- Who has succeeded stands in the order. -/
theorem Linearizes.exists_mem_of_succeeds (h : Linearizes v requests store.records history s order)
    {i : ι} (hi : s.Succeeds i) : ∃ x ∈ order, x.1 = i := by
  obtain ⟨reply, hreply⟩ := hi
  have hsome : (s.effect? i).isSome := by
    rw [Callers.effect?, effect?_eq_ok_iff.2 hreply]
    rfl
  exact List.mem_map.1 ((h.mem_iff i).2 hsome)

/-- An order that explains a run decides the races in it. -/
theorem Linearizes.decided (h : Linearizes v requests store.records history s order)
    (hrace : Race v requests id old pair passwords noises) (hsealing : sealing ∈ noises)
    (hrecord : store.records.get? (v.recordKey id) = some (v.sealing.record old sealing pair))
    (hnoises : ∀ i noise, .draw i noise ∈ history → noise ∈ noises) :
    Decided v requests id old pair passwords s := by
  have hdrawn : ∀ x ∈ order, id ∈ (requests x.1).identifiers → x.2 ∈ noises := by
    intro x hx hid
    obtain ⟨new, -, -, hrequest⟩ := hrace.only x.1 hid
    exact hnoises x.1 x.2 (h.drawn x hx (by rw [hrequest]; rfl))
  rcases h.inTurn.rotated hrace hsealing hrecord hdrawn with
    ⟨hnobody, hafter⟩ | ⟨x, hx, new, hnew, hrequest, hwon, hxnoise, hafter, hlate⟩
  · have hnone : ∀ i, id ∈ (requests i).identifiers → ¬ s.Succeeds i := by
      intro i hid hsucceeds
      obtain ⟨x, hx, rfl⟩ := h.exists_mem_of_succeeds hsucceeds
      exact hnobody x hx hid
    exact {
      unique := fun i _ hi _ hsucceeds => absurd hsucceeds (hnone i hi)
      winner := fun i new hi hsucceeds =>
        absurd hsucceeds (hnone i (by rw [hi]; exact List.mem_cons_self))
      nobody := fun _ => hrace.openFound_eq hrace.old_mem hsealing hafter }
  · have hfirst : ∀ i, id ∈ (requests i).identifiers → s.Succeeds i → i = x.1 := by
      intro i hid hsucceeds
      obtain ⟨y, hy, rfl⟩ := h.exists_mem_of_succeeds hsucceeds
      rcases hlate y hy hid with rfl | hbad
      · rfl
      · obtain ⟨reply, hreply⟩ := hsucceeds
        rw [Callers.effect?, effect?_eq_ok_iff.2 hreply] at hbad
        cases hbad
    exact {
      unique := fun i j hi hj hsi hsj => (hfirst i hi hsi).trans (hfirst j hj hsj).symm
      winner := by
        intro i new' hi hsucceeds
        obtain rfl := hfirst i (by rw [hi]; exact List.mem_cons_self) hsucceeds
        obtain ⟨-, -, rfl⟩ := Request.updatePassword.inj (hi.symm.trans hrequest)
        exact hrace.openFound_eq hnew hxnoise hafter
      nobody := by
        intro hnone
        have hid : id ∈ (requests x.1).identifiers := by
          rw [hrequest]
          exact List.mem_cons_self
        exact absurd ⟨.done, effect?_eq_ok_iff.1 hwon⟩ (hnone x.1 hid) }

/-- **The operations of a vault are linearizable**, whatever the callers ask for, however their
steps are interleaved, and whichever conflicts are planned. There is an order of the calls that took
effect in which, one at a time, they get the same replies and leave the same records; a call that
ran out of attempts has changed nothing in any of its steps; and of callers who race to change one
password that is the current one, at most one succeeds and its password is the one that opens the
record. -/
theorem linearizable [DecidableEq ι] (v : Vault) (requests : ι → Request) {store : Store}
    (havailable : store.available = true) {history : List (Event ι)} {s : Callers ι}
    (h : Run v requests (.start store) history s) :
    (∃ order, Linearizes v requests store.records history s order) ∧
      (∀ {before after : List (Event ι)} {e : Event ι} {s₁ s₂ : Callers ι} {i : ι},
        Run v requests (.start store) before s₁ → Step v requests s₁ e s₂ →
          Run v requests s₂ after s → e.caller? = some i →
            s.outcome? i = some (.error .maxAttempts) →
              s₂.store.records = s₁.store.records) ∧
      ∀ {id : String} {old : Octets} {pair : Pki.KeyPair} {passwords : List Octets}
        {noises : List Noise} {sealing : Noise},
        Race v requests id old pair passwords noises → sealing ∈ noises →
          store.records.get? (v.recordKey id) = some (v.sealing.record old sealing pair) →
            (∀ i noise, .draw i noise ∈ history → noise ∈ noises) →
              Decided v requests id old pair passwords s := by
  obtain ⟨order, htracked⟩ := Tracked.run havailable h
  refine ⟨⟨order, htracked.toLinearizes⟩, ?_, ?_⟩
  · intro before after e s₁ s₂ i hbefore hstep hafter hcaller hexhausted
    exact records_eq_of_exhausted havailable hbefore hstep hafter hcaller hexhausted
  · intro id old pair passwords noises sealing hrace hsealing hrecord hnoises
    exact htracked.toLinearizes.decided hrace hsealing hrecord hnoises

end Runs

/-! ### A race -/

/-- Three callers who know the password of one record. -/
def specimenRequests : Fin 3 → Request
  | 0 => .updatePassword "a" [1] [2]
  | 1 => .updatePassword "a" [1] [3]
  | 2 => .updatePassword "a" [1] [4]

def specimenVault : Vault := ⟨.transparent, .withMaxAttempts 1, "eet:"⟩

def specimenStore : Store :=
  ⟨Table.empty.put "eet:a" (Sealing.transparent.record [1] specimenNoise .specimen), 0, true⟩

/-- One runs out of attempts, one wins, and one comes too late. -/
theorem exists_race : ∃ before s₁ s₂ after s,
    Run specimenVault specimenRequests (.start specimenStore) before s₁ ∧
      Step specimenVault specimenRequests s₁ (.transact 0) s₂ ∧
      Run specimenVault specimenRequests s₂ after s ∧
      (∀ i noise, .draw i noise ∈ before ++ [.transact 0] ++ after → noise = specimenNoise) ∧
      s.outcome? 0 = some (.error .maxAttempts) ∧ s.outcome? 1 = some (.ok .done) ∧
      s.outcome? 2 = some (.error .badPassword) := by
  have h₀ : Run specimenVault specimenRequests (.start specimenStore) [] (.start specimenStore) :=
    .nil
  have h₁ := (h₀.step (.invoke (i := 0) rfl)).step (.draw (i := 0) rfl specimenNoise)
  have h₂ := (h₁.step (.invoke (i := 1) rfl)).step (.draw (i := 1) rfl specimenNoise)
  have h₃ := h₂.step (.inject 1)
  -- the conflict meets the first caller, whose only attempt it was
  refine ⟨_, _, _, _, _, h₃, .transact (i := 0) rfl,
    (((Run.nil.step (.transact (i := 1) rfl)).step (.invoke (i := 2) rfl)).step
      (.draw (i := 2) rfl specimenNoise)).step (.transact (i := 2) rfl), ?_, by decide +kernel⟩
  intro i noise h
  simp only [List.mem_append, List.mem_cons, List.not_mem_nil, Event.draw.injEq, reduceCtorEq,
    false_or, or_false] at h
  rcases h with (h | h) | h <;> exact h.2

/-- The race is explained by an order, the first caller has changed nothing, and the password of the
second one opens the record. -/
theorem linearizable_race : ∃ before s₁ s₂ after s,
    Run specimenVault specimenRequests (.start specimenStore) (before ++ [.transact 0] ++ after) s ∧
      s.outcome? 0 = some (.error .maxAttempts) ∧ s.outcome? 1 = some (.ok .done) ∧
      s.outcome? 2 = some (.error .badPassword) ∧
      (∃ order, Linearizes specimenVault specimenRequests specimenStore.records
        (before ++ [.transact 0] ++ after) s order) ∧
      Step specimenVault specimenRequests s₁ (.transact 0) s₂ ∧
      s₂.store.records = s₁.store.records ∧
      Decided specimenVault specimenRequests "a" [1] .specimen [[1], [2], [3], [4]] s := by
  obtain ⟨before, s₁, s₂, after, s, hbefore, hstep, hafter, hdrawn, hfirst, hsecond, hthird⟩ :=
    exists_race
  have hrun := (hbefore.step hstep).trans hafter
  have hrace : Race specimenVault specimenRequests "a" [1] .specimen [[1], [2], [3], [4]]
      [specimenNoise] := {
    lawful := Sealing.transparent_lawful
    separates := Sealing.transparent_separates (n := 1) (by decide) (by decide) _ _
    old_mem := by decide
    only := fun
      | 0, _ => ⟨[2], by decide, by decide, rfl⟩
      | 1, _ => ⟨[3], by decide, by decide, rfl⟩
      | 2, _ => ⟨[4], by decide, by decide, rfl⟩ }
  have hrecord : specimenStore.records.get? (specimenVault.recordKey "a") =
      some (specimenVault.sealing.record [1] specimenNoise .specimen) := rfl
  have havailable : specimenStore.available = true := rfl
  obtain ⟨horder, hexhausted, hdecided⟩ :=
    linearizable specimenVault specimenRequests havailable hrun
  exact ⟨before, s₁, s₂, after, s, hrun, hfirst, hsecond, hthird, horder, hstep,
    hexhausted hbefore hstep hafter rfl hfirst,
    hdecided hrace List.mem_cons_self hrecord fun i noise h =>
      List.mem_singleton.2 (hdrawn i noise h)⟩

end FiscalGateway.Vault
