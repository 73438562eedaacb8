import FiscalGateway.Proofs.Number.Doubling
import FiscalGateway.Proofs.Vault.Course

/-!
# Conflicts — what each of them costs

A conflict costs an operation one transaction and one pause, and it is used up by that. `Call.deeds`
records what an operation does in a world, transaction by transaction and pause by pause;
`run_call_conflicts` tells the record of every operation that persists, together with its outcome,
the records and the conflicts that it leaves, for any number of conflicts and of attempts.

What each attempt does is said by one of two conditions: it writes unless a conflict is pending
(`Writes`), or it is refused whatever is pending. The loop of attempts is an induction over the
attempts that are left (`Writes.retryFrom`).
-/

namespace FiscalGateway.Vault

variable {α β : Type}

/-! ## Deeds -/

/-- What others may notice of an operation: it asks the store, or it lets time pass. -/
inductive Deed where
  | transaction
  | pause (milliseconds : Nat)
  deriving DecidableEq, Repr

/-- What others notice of an effect; nobody notices a draw. -/
def Effect.deeds : Effect α → List Deed
  | .transact _ => [.transaction]
  | .sleep ms => [.pause ms]
  | .draw => []

/-- **What an operation does in a world**, in order. -/
def Call.deeds : Call α → World → List Deed
  | .done _, _ => []
  | .ask e next, w => e.deeds ++ Call.deeds (next (e.perform w).1) (e.perform w).2

/-- How long it takes. -/
def Deed.duration : Deed → Nat
  | .transaction => 0
  | .pause ms => ms

/-- A transaction before, between and after these pauses. -/
def rounds : List Nat → List Deed
  | [] => [.transaction]
  | ms :: pauses => .transaction :: .pause ms :: rounds pauses

theorem count_transaction_rounds (pauses : List Nat) :
    (rounds pauses).count .transaction = pauses.length + 1 := by
  induction pauses with
  | nil => rfl
  | cons ms pauses ih => simp [rounds, ih]

theorem sum_duration_rounds (pauses : List Nat) :
    ((rounds pauses).map Deed.duration).sum = pauses.sum := by
  induction pauses with
  | nil => rfl
  | cons ms pauses ih => simp [rounds, Deed.duration, ih]

theorem deeds_bind (c : Call α) (f : α → Call β) (w : World) :
    Call.deeds (c >>= f) w = c.deeds w ++ Call.deeds (f (c.run w).1) (c.run w).2 := by
  induction c generalizing w with
  | done a => rfl
  | ask e next ih =>
    have hrun : Call.run (.ask e next) w = Call.run (next (e.perform w).1) (e.perform w).2 := rfl
    rw [Program.ask_bind, Call.deeds, Call.deeds, ih, hrun, List.append_assoc]

/-- Only pauses take time. -/
theorem clock_run (c : Call α) (w : World) :
    (c.run w).2.clock = w.clock + ((c.deeds w).map Deed.duration).sum := by
  induction c generalizing w with
  | done a => rfl
  | ask e next ih =>
    have hrun : Call.run (.ask e next) w = Call.run (next (e.perform w).1) (e.perform w).2 := rfl
    have heffect : (e.perform w).2.clock = w.clock + (e.deeds.map Deed.duration).sum := by
      cases e with
      | transact t => rfl
      | sleep ms => simp [Effect.perform, Effect.deeds, Deed.duration]
      | draw => rfl
    rw [hrun, ih, heffect, Call.deeds, List.map_append, List.sum_append, Nat.add_assoc]

/-! ## What a call performs -/

/-- **What a call performs in a world**: its outcome, what it does, and the store behind it. -/
structure Performs (w : World) (c : Call α) (a : α) (deeds : List Deed) (after : Store → Prop) :
    Prop where
  outcome : (c.run w).1 = a
  deeds : c.deeds w = deeds
  store : after (c.run w).2.store

namespace Performs

variable {w : World} {c : Call α} {a : α} {b : β} {deeds deeds' : List Deed}
  {after after' : Store → Prop}

theorem bind {f : α → Call β} (h : Performs w c a deeds after)
    (hf : ∀ w', after w'.store → Performs w' (f a) b deeds' after') :
    Performs w (c >>= f) b (deeds ++ deeds') after' := by
  have hnext := hf _ h.store
  refine ⟨?_, ?_, ?_⟩
  · rw [run_bind, h.outcome, hnext.outcome]
  · rw [deeds_bind, h.deeds, h.outcome, hnext.deeds]
  · rw [run_bind, h.outcome]
    exact hnext.store

/-- What is made of the outcome is no deed. -/
theorem bind_done {f : α → Call β} (h : Performs w c a deeds after) (hf : f a = .done b) :
    Performs w (c >>= f) b deeds after := by
  have hend : ∀ w', after w'.store → Performs w' (f a) b [] after := by
    intro w' hw'
    rw [hf]
    exact ⟨rfl, rfl, hw'⟩
  have hbind := h.bind hend
  rwa [List.append_nil] at hbind

theorem andThen {c : Call (Except Fault α)} {a : Except Fault α} (h : Performs w c a deeds after)
    (f : α → Except Fault β) : Performs w (Vault.andThen c f) (a >>= f) deeds after :=
  h.bind_done rfl

theorem draw {f : Noise → Call α}
    (h : ∀ noise w', w'.store = w.store → Performs w' (f noise) a deeds after) :
    Performs w (Program.request .draw >>= f) a deeds after := by
  have hdraw : Performs w (Program.request .draw) (w.noise w.drawn) [] (· = w.store) :=
    ⟨rfl, rfl, rfl⟩
  exact hdraw.bind fun w' hw' => h _ w' hw'

theorem sleep (w : World) (ms : Nat) :
    Performs w (Program.request (.sleep ms)) () [.pause ms] (· = w.store) :=
  ⟨rfl, rfl, rfl⟩

theorem transact (hw : w.store.available = true) (t : Transaction α) :
    Performs w (transact t) ((w.store.answer t).1.mapError StoreFault.toFault) [.transaction]
      (· = (w.store.answer t).2) := by
  have hrun : w.store.run t = w.store.answer t := if_pos hw
  have hrequest : Performs w (Program.request (.transact t)) (w.store.answer t).1 [.transaction]
      (· = (w.store.answer t).2) := by
    refine ⟨?_, rfl, ?_⟩
    · rw [run_request, hrun]
    · rw [run_request, hrun]
  exact hrequest.bind_done rfl

/-- **An attempt that meets no conflict** is the only one. -/
theorem persist {attempt : Call (Except Fault α)} {a : Except Fault α} {v : Vault}
    (h : Performs w attempt a deeds after) (ha : a ≠ .error .conflict) :
    Performs w (v.persist attempt) a deeds after := by
  have hloop (left : Nat) : Performs w (retryFrom v.policy isConflict attempt
      (fun ms => Program.request (.sleep ms)) 0 left) (a.mapError .aborted) deeds after := by
    cases left <;> rw [retryFrom] <;> refine h.bind_done ?_
    all_goals
      cases a with
      | ok a => rfl
      | error e =>
        have he : isConflict e = false := by simpa [isConflict] using ha
        simp only [he]
        rfl
  refine (hloop _).bind_done ?_
  cases a <;> rfl

end Performs

/-! ## Attempts -/

/-- **An attempt that writes** to these records unless a conflict is pending, which it uses up. -/
def Writes (records : Table Record) (a : α) (attempt : Call (Except Fault α)) : Prop :=
  ∀ w : World, w.store.records = records → w.store.available = true →
    match w.store.pendingConflicts with
    | 0 => Performs w attempt (.ok a) [.transaction] (·.pendingConflicts = 0)
    | c + 1 => Performs w attempt (.error .conflict) [.transaction] (· = ⟨records, c, true⟩)

namespace Writes

variable {records : Table Record} {a : α} {b : β} {attempt : Call (Except Fault α)}

/-- A transaction that comes to the point of writing. -/
theorem transact {t : Transaction α}
    (h : ∀ s : Store, s.records = records → ∃ written, s.answer t = s.commit a written) :
    Writes records a (transact t) := by
  intro w hrecords hreach
  obtain ⟨written, hanswer⟩ := h w.store hrecords
  have htransact := Performs.transact hreach t
  rw [hanswer] at htransact
  unfold Store.commit at htransact
  split
  · next hnone =>
    simp only [hnone] at htransact
    refine ⟨htransact.outcome, htransact.deeds, ?_⟩
    rw [htransact.store]
  · next c hsome =>
    simp only [hsome] at htransact
    refine ⟨htransact.outcome, htransact.deeds, ?_⟩
    rw [htransact.store, ← hrecords, ← hreach]

theorem andThen (h : Writes records a attempt) {f : α → Except Fault β} (hf : f a = .ok b) :
    Writes records b (Vault.andThen attempt f) := by
  intro w hrecords hreach
  have hattempt := h w hrecords hreach
  revert hattempt
  split <;> intro hattempt
  · have hok := hattempt.andThen f
    rwa [show (.ok a : Except Fault α) >>= f = .ok b from hf] at hok
  · exact hattempt.andThen f

theorem draw {f : Noise → Call (Except Fault α)} (h : ∀ noise, Writes records a (f noise)) :
    Writes records a (Program.request .draw >>= f) := by
  intro w hrecords hreach
  split
  · next hnone =>
    refine Performs.draw fun noise w' hw' => ?_
    have hattempt := h noise w' (by rw [hw', hrecords]) (by rw [hw', hreach])
    rwa [show w'.store.pendingConflicts = 0 by rw [hw', hnone]] at hattempt
  · next c hsome =>
    refine Performs.draw fun noise w' hw' => ?_
    have hattempt := h noise w' (by rw [hw', hrecords]) (by rw [hw', hreach])
    rwa [show w'.store.pendingConflicts = c + 1 by rw [hw', hsome]] at hattempt

variable {c : Nat} {w : World}

theorem success (h : Writes records a attempt) (hw : w.store = ⟨records, 0, true⟩) :
    Performs w attempt (.ok a) [.transaction] (·.pendingConflicts = 0) := by
  have hattempt := h w (by rw [hw]) (by rw [hw])
  rwa [show w.store.pendingConflicts = 0 by rw [hw]] at hattempt

theorem conflict (h : Writes records a attempt) (hw : w.store = ⟨records, c + 1, true⟩) :
    Performs w attempt (.error .conflict) [.transaction] (· = ⟨records, c, true⟩) := by
  have hattempt := h w (by rw [hw]) (by rw [hw])
  rwa [show w.store.pendingConflicts = c + 1 by rw [hw]] at hattempt

/-- **The loop of attempts**, when `left` more of them may follow attempt `k`: either the conflicts
end first, each followed by the pause for it, or the attempts do. -/
theorem retryFrom (h : Writes records a attempt) (policy : RetryPolicy) (left k : Nat)
    (hw : w.store = ⟨records, c, true⟩) :
    (c ≤ left → Performs w
      (retryFrom policy isConflict attempt (fun ms => Program.request (.sleep ms)) k left) (.ok a)
      (rounds ((List.range' k c).map policy.delay)) (·.pendingConflicts = 0)) ∧
    (left < c → Performs w
      (retryFrom policy isConflict attempt (fun ms => Program.request (.sleep ms)) k left)
      (.error (.exhausted (k + left + 1) .conflict))
      (rounds ((List.range' k left).map policy.delay)) (· = ⟨records, c - (left + 1), true⟩)) := by
  induction left generalizing k c w with
  | zero =>
    constructor
    · intro hc
      obtain rfl : c = 0 := Nat.le_zero.1 hc
      exact (h.success hw).bind_done rfl
    · intro hc
      obtain ⟨c, rfl⟩ := Nat.exists_eq_add_of_lt hc
      rw [show 0 + c + 1 = c + 1 by omega] at hw ⊢
      exact (h.conflict hw).bind_done rfl
  | succ left ih =>
    cases c with
    | zero => exact ⟨fun _ => (h.success hw).bind_done rfl, fun hc => absurd hc (by omega)⟩
    | succ c =>
      -- one conflict fewer is pending for the attempts that follow the pause
      have hpause : ∀ w' : World, w'.store = ⟨records, c, true⟩ → Performs w'
          (Program.request (.sleep (policy.delay k))) () [.pause (policy.delay k)]
          (· = ⟨records, c, true⟩) := by
        intro w' hw'
        rw [← hw']
        exact Performs.sleep w' _
      constructor
      · intro hc
        refine (h.conflict hw).bind fun w' hw' => (hpause w' hw').bind fun w'' hw'' => ?_
        exact (ih (k + 1) hw'').1 (by omega)
      · intro hc
        have hlast : k + 1 + left + 1 = k + (left + 1) + 1 := by omega
        have hpending : c - (left + 1) = c + 1 - (left + 1 + 1) := by omega
        rw [← hlast, ← hpending]
        refine (h.conflict hw).bind fun w' hw' => (hpause w' hw').bind fun w'' hw'' => ?_
        exact (ih (k + 1) hw'').2 (by omega)

end Writes

/-- The first pauses of a policy that is the standard one but for the number of attempts. -/
def standardPauses (count : Nat) : List Nat := (List.range count).map fun k => min (10 * 2 ^ k) 200

theorem map_delay_withMaxAttempts (n count : Nat) :
    (List.range' 0 count).map (RetryPolicy.withMaxAttempts n).delay = standardPauses count := by
  have hinitial : (RetryPolicy.withMaxAttempts n).initialMicros / 1000 = 10 := by
    simp [RetryPolicy.withMaxAttempts, RetryPolicy.standard]
  have hmax : (RetryPolicy.withMaxAttempts n).maxMillis = 200 := rfl
  have hdelay : ∀ k, (RetryPolicy.withMaxAttempts n).delay k = min (10 * 2 ^ k) 200 := by
    intro k
    rw [RetryPolicy.delay_eq rfl (by rw [hinitial]; decide) (by rw [hmax]; decide), hinitial, hmax]
  rw [← List.range_eq_range', standardPauses]
  exact List.map_congr_left fun k _ => hdelay k

/-- **What becomes of an operation that writes**, from these records and with so many conflicts
pending, when it makes at most `n` attempts and at least one. -/
structure Accounts (n : Nat) (records : Table Record) (a : α) (c : Call (Except Fault α)) :
    Prop where
  succeeds : ∀ (w : World) (k : Nat), w.store = ⟨records, k, true⟩ → k < max n 1 →
    Performs w c (.ok a) (rounds (standardPauses k)) (·.pendingConflicts = 0)
  exhausted : ∀ (w : World) (k : Nat), w.store = ⟨records, k, true⟩ → max n 1 ≤ k →
    Performs w c (.error .maxAttempts) (rounds (standardPauses (max n 1 - 1)))
      (· = ⟨records, k - max n 1, true⟩)

namespace Accounts

variable {n : Nat} {records : Table Record} {a : α} {b : β}

theorem persist {v : Vault} (hpolicy : v.policy = .withMaxAttempts n)
    {attempt : Call (Except Fault α)} (h : Writes records a attempt) :
    Accounts n records a (v.persist attempt) := by
  have hattempts : (RetryPolicy.withMaxAttempts n).maxAttempts = n := rfl
  have hleft : max n 1 - 1 = n - 1 := by omega
  constructor
  · intro w k hw hk
    have hloop := (h.retryFrom v.policy (v.policy.maxAttempts - 1) 0 hw).1
    rw [hpolicy, map_delay_withMaxAttempts, hattempts] at hloop
    rw [Vault.persist, hpolicy]
    exact (hloop (by omega)).bind_done rfl
  · intro w k hw hk
    have hloop := (h.retryFrom v.policy (v.policy.maxAttempts - 1) 0 hw).2
    rw [hpolicy, map_delay_withMaxAttempts, hattempts, show n - 1 + 1 = max n 1 by omega] at hloop
    rw [Vault.persist, hpolicy, hleft]
    exact (hloop (by omega)).bind_done rfl

theorem andThen {c : Call (Except Fault α)} (h : Accounts n records a c) {f : α → Except Fault β}
    (hf : f a = .ok b) : Accounts n records b (Vault.andThen c f) := by
  constructor
  · intro w k hw hk
    have hok := (h.succeeds w k hw hk).andThen f
    rwa [show (.ok a : Except Fault α) >>= f = .ok b from hf] at hok
  · intro w k hw hk
    exact (h.exhausted w k hw hk).andThen f

theorem draw {f : Noise → Call (Except Fault α)} (h : ∀ noise, Accounts n records a (f noise)) :
    Accounts n records a (Program.request .draw >>= f) := by
  constructor
  · intro w k hw hk
    exact Performs.draw fun noise w' hw' => (h noise).succeeds w' k (hw'.trans hw) hk
  · intro w k hw hk
    exact Performs.draw fun noise w' hw' => (h noise).exhausted w' k (hw'.trans hw) hk

end Accounts

/-! ## Operations -/

section Operations

variable {v : Vault} {records : Table Record} {id oldId newId : String}
  {password oldPassword newPassword : Octets} {pair : Pki.KeyPair}

/-! ### Those that write -/

namespace Accounts

variable {n : Nat}

theorem store (hpolicy : v.policy = .withMaxAttempts n)
    (hfree : ¬ records.contains (v.recordKey id) = true) :
    Accounts n records () (v.store id password pair) := by
  have hinsert (fields : List Field) :
      Writes records true (transact (.insert (v.recordKey id) fields)) := by
    refine .transact fun s hs => ?_
    exact ⟨_, by rw [Store.answer, Store.insert, hs, if_neg hfree]⟩
  exact Accounts.draw fun noise => (Accounts.persist hpolicy (hinsert _)).andThen rfl

theorem updateId (hpolicy : v.policy = .withMaxAttempts n)
    (hsource : records.contains (v.recordKey oldId) = true)
    (hfree : ¬ records.contains (v.recordKey newId) = true) :
    Accounts n records () (v.updateId oldId newId) := by
  obtain ⟨record, hrecord⟩ := Option.isSome_iff_exists.1 hsource
  have hrename : Writes records .renamed
      (transact (.rename (v.recordKey oldId) (v.recordKey newId))) := by
    refine .transact fun s hs => ?_
    exact ⟨_, by simp only [Store.answer, Store.rename, hs, hrecord, if_neg hfree]; rfl⟩
  exact (Accounts.persist hpolicy hrename).andThen rfl

theorem updatePassword (hpolicy : v.policy = .withMaxAttempts n)
    (hopen : v.openFound id oldPassword ((records.get? (v.recordKey id)).getD .empty) = .ok pair) :
    Accounts n records () (v.updatePassword id oldPassword newPassword) := by
  have hreseal (noise : Noise) : Writes records (.ok ()) (transact (.update (v.recordKey id)
      (v.resealed id oldPassword newPassword noise))) := by
    refine .transact fun s hs => ?_
    have hchange : v.resealed id oldPassword newPassword noise (s.record (v.recordKey id)) =
        .ok (v.sealing.sealPair newPassword noise pair) := by
      rw [Store.record, hs, resealed, hopen]
      rfl
    exact ⟨_, by rw [Store.answer, Store.update, hchange]⟩
  exact Accounts.persist hpolicy (Writes.draw fun noise => (hreseal noise).andThen rfl)

end Accounts

/-! ### Those that are refused -/

namespace Performs

variable {w w' : World}

/-- A transaction that writes nothing, and is answered all the same. -/
theorem transact_ok (hw : w'.store = w.store) (hreach : w.store.available = true)
    {t : Transaction α} {a : α} (ha : w.store.answer t = (.ok a, w.store)) :
    Performs w' (Vault.transact t) (.ok a) [.transaction] (· = w.store) := by
  have h := Performs.transact (by rw [hw, hreach]) t
  rwa [hw, ha] at h

theorem store_taken (hreach : w.store.available = true)
    (htaken : w.store.records.contains (v.recordKey id) = true) :
    Performs w (v.store id password pair) (.error (.idExists id)) [.transaction]
      (· = w.store) := by
  refine Performs.draw fun noise w' hw' => ?_
  have hanswer : w.store.answer (.insert (v.recordKey id)
      (v.sealing.sealPair password noise pair)) = (.ok false, w.store) := by
    rw [Store.answer, Store.insert, if_pos htaken]
  have hinsert := Performs.transact_ok hw' hreach hanswer
  exact (hinsert.persist (by simp)).andThen _

theorem updateId_missing (hreach : w.store.available = true)
    (hmissing : ¬ w.store.records.contains (v.recordKey oldId) = true) :
    Performs w (v.updateId oldId newId) (.error (.notFound oldId)) [.transaction]
      (· = w.store) := by
  have hsource : w.store.records.get? (v.recordKey oldId) = none := by
    simpa [Table.contains] using hmissing
  have hanswer : w.store.answer (.rename (v.recordKey oldId) (v.recordKey newId)) =
      (.ok .sourceMissing, w.store) := by
    simp only [Store.answer, Store.rename, hsource]
  have hrename := Performs.transact_ok rfl hreach hanswer
  exact (hrename.persist (by simp)).andThen _

theorem updateId_taken (hreach : w.store.available = true)
    (hsource : w.store.records.contains (v.recordKey oldId) = true)
    (htaken : w.store.records.contains (v.recordKey newId) = true) :
    Performs w (v.updateId oldId newId) (.error (.idExists newId)) [.transaction]
      (· = w.store) := by
  obtain ⟨record, hrecord⟩ := Option.isSome_iff_exists.1 hsource
  have hanswer : w.store.answer (.rename (v.recordKey oldId) (v.recordKey newId)) =
      (.ok .targetExists, w.store) := by
    simp only [Store.answer, Store.rename, hrecord, if_pos htaken]
  have hrename := Performs.transact_ok rfl hreach hanswer
  exact (hrename.persist (by simp)).andThen _

/-- A record that does not open is not a conflict, so nothing is tried again. -/
theorem updatePassword_closed {fault : Fault} (hreach : w.store.available = true)
    (hclosed : v.openFound id oldPassword (w.store.record (v.recordKey id)) = .error fault) :
    Performs w (v.updatePassword id oldPassword newPassword) (.error fault) [.transaction]
      (· = w.store) := by
  have hfinal := isFinal_openFound v id oldPassword (w.store.record (v.recordKey id))
  rw [hclosed] at hfinal
  have hconflict : (.error fault : Except Fault Unit) ≠ .error .conflict := by
    simpa using hfinal.1
  refine Performs.persist (Performs.draw fun noise w' hw' => ?_) hconflict
  have hchange : v.resealed id oldPassword newPassword noise (w.store.record (v.recordKey id)) =
      .error fault := by
    rw [resealed, hclosed]
    rfl
  have hanswer : w.store.answer (.update (v.recordKey id)
      (v.resealed id oldPassword newPassword noise)) = (.ok (.error fault), w.store) := by
    rw [Store.answer, Store.update, hchange]
  exact (Performs.transact_ok hw' hreach hanswer).andThen _

end Performs

end Operations

/-! ## Requests -/

/-- Whether a request is tried again after a conflict. -/
def Request.persists : Request → Bool
  | .store .. | .updateId .. | .updatePassword .. => true
  | .get .. | .list .. | .delete .. => false

/-- **Why a request is refused** for what these records are, if it is: what it is about is missing,
in its way, or does not open. -/
def Request.refusal? (v : Vault) (records : Table Record) : Request → Option Fault
  | .store id _ _ => if records.contains (v.recordKey id) then some (.idExists id) else none
  | .updateId oldId newId =>
    if records.contains (v.recordKey oldId) then
      if records.contains (v.recordKey newId) then some (.idExists newId) else none
    else some (.notFound oldId)
  | .updatePassword id oldPassword _ =>
    match v.openFound id oldPassword ((records.get? (v.recordKey id)).getD .empty) with
    | .ok _ => none
    | .error fault => some fault
  | .get .. | .list .. | .delete .. => none

variable {v : Vault} {records : Table Record} {r : Request}

/-- **A request that nothing refuses writes**, unless it meets conflicts. -/
theorem accounts_call {n : Nat} (hpolicy : v.policy = .withMaxAttempts n)
    (hpersists : r.persists = true) (hrefusal : r.refusal? v records = none) :
    Accounts n records .done (r.call v) := by
  cases r with
  | store id password pair =>
    have hfree : ¬ records.contains (v.recordKey id) = true := by
      simpa [Request.refusal?] using hrefusal
    exact (Accounts.store hpolicy hfree).andThen rfl
  | updateId oldId newId =>
    simp only [Request.refusal?] at hrefusal
    split at hrefusal
    · next hsource =>
      have hfree : ¬ records.contains (v.recordKey newId) = true := by simpa using hrefusal
      exact (Accounts.updateId hpolicy hsource hfree).andThen rfl
    · contradiction
  | updatePassword id oldPassword newPassword =>
    simp only [Request.refusal?] at hrefusal
    split at hrefusal
    · next pair hopen => exact (Accounts.updatePassword hpolicy hopen).andThen rfl
    · contradiction
  | get id password => contradiction
  | list offset limit => contradiction
  | delete id => contradiction

/-- **A request that is refused** is refused at once. -/
theorem performs_refused {fault : Fault} {w : World} (hreach : w.store.available = true)
    (hrefusal : r.refusal? v w.store.records = some fault) :
    Performs w (r.call v) (.error fault) [.transaction] (· = w.store) := by
  cases r with
  | store id password pair =>
    simp only [Request.refusal?, Option.ite_none_right_eq_some, Option.some.injEq] at hrefusal
    obtain ⟨htaken, rfl⟩ := hrefusal
    exact (Performs.store_taken hreach htaken).andThen _
  | updateId oldId newId =>
    simp only [Request.refusal?] at hrefusal
    split at hrefusal
    · next hsource =>
      simp only [Option.ite_none_right_eq_some, Option.some.injEq] at hrefusal
      obtain ⟨htaken, rfl⟩ := hrefusal
      exact (Performs.updateId_taken hreach hsource htaken).andThen _
    · next hmissing =>
      obtain rfl := Option.some.inj hrefusal
      exact (Performs.updateId_missing hreach hmissing).andThen _
  | updatePassword id oldPassword newPassword =>
    simp only [Request.refusal?] at hrefusal
    split at hrefusal
    · contradiction
    · next hclosed =>
      obtain rfl := Option.some.inj hrefusal
      exact (Performs.updatePassword_closed hreach hclosed).andThen _
  | get id password => contradiction
  | list offset limit => contradiction
  | delete id => contradiction

/-- A request that succeeds is served as where nothing interferes. -/
theorem serveAlone_of_run {w : World} {reply : Reply} (h : (Call.run (r.call v) w).1 = .ok reply) :
    ∃ noise, v.serveAlone w.store.records r noise =
      (.ok reply, (Call.run (r.call v) w).2.store.records) := by
  have hcourse := runOn_call v r w.calm
  rw [runOn_calm, h] at hcourse
  rcases hcourse with ⟨-, f, -, hf⟩ | ⟨noise, -, hserve⟩
  · contradiction
  · exact ⟨noise, hserve⟩

/-- **What conflicts cost.** Of a store in reach, whatever its records are and however many
conflicts are pending, and of at most `n` attempts and at least one: a request that is refused makes
one transaction, does not wait, and leaves the store as it is. Any other one that meets fewer
conflicts than it may make attempts makes one transaction more than there are conflicts, waits after
each of them, and is then served as where nothing interferes, with no conflict left; and one that
meets as many or more makes all its attempts, waits between them, and leaves the records and the
other conflicts. -/
theorem run_call_conflicts {n : Nat} (hpolicy : v.policy = .withMaxAttempts n)
    (hpersists : r.persists = true) (w : World) (hreach : w.store.available = true) :
    let c := w.store.pendingConflicts
    let m := max n 1
    let ended := (r.call v).run w
    let deeds := (r.call v).deeds w
    (∀ fault, r.refusal? v w.store.records = some fault →
      ended.1 = .error fault ∧ ended.2.store = w.store ∧ ended.2.clock = w.clock ∧
        deeds = [.transaction]) ∧
    (r.refusal? v w.store.records = none → c < m →
      ended.1 = .ok .done ∧ ended.2.store.pendingConflicts = 0 ∧
        ended.2.clock = w.clock + (standardPauses c).sum ∧
        deeds = rounds (standardPauses c) ∧ deeds.count .transaction = c + 1 ∧
        ∃ noise, v.serveAlone w.store.records r noise = (.ok .done, ended.2.store.records)) ∧
    (r.refusal? v w.store.records = none → m ≤ c →
      ended.1 = .error .maxAttempts ∧
        ended.2.store = { w.store with pendingConflicts := c - m } ∧
        ended.2.clock = w.clock + (standardPauses (m - 1)).sum ∧
        deeds = rounds (standardPauses (m - 1)) ∧ deeds.count .transaction = m) := by
  intro c m ended deeds
  have hclock : ended.2.clock = w.clock + (deeds.map Deed.duration).sum := clock_run (r.call v) w
  -- the store is what `Accounts` starts from: these records, so many conflicts, and in reach
  have hstore : w.store = ⟨w.store.records, c, true⟩ := by rw [← hreach]
  have hlength (k : Nat) : (standardPauses k).length = k := by simp [standardPauses]
  refine ⟨fun fault hrefusal => ?_, fun hrefusal hc => ?_, fun hrefusal hc => ?_⟩
  · have h := performs_refused hreach hrefusal
    rw [show deeds = [.transaction] from h.deeds] at hclock ⊢
    exact ⟨h.outcome, h.store, hclock, rfl⟩
  · have h := (accounts_call hpolicy hpersists hrefusal).succeeds w c hstore hc
    rw [show deeds = rounds (standardPauses c) from h.deeds] at hclock ⊢
    rw [sum_duration_rounds] at hclock
    refine ⟨h.outcome, h.store, hclock, rfl, ?_, serveAlone_of_run h.outcome⟩
    rw [count_transaction_rounds, hlength]
  · have h := (accounts_call hpolicy hpersists hrefusal).exhausted w c hstore hc
    rw [show deeds = rounds (standardPauses (m - 1)) from h.deeds] at hclock ⊢
    rw [sum_duration_rounds] at hclock
    refine ⟨h.outcome, ?_, hclock, rfl, ?_⟩
    · rw [show ended.2.store = ⟨w.store.records, c - m, true⟩ from h.store, ← hreach]
    · rw [count_transaction_rounds, hlength]
      omega

/-! ### Two conflicts and three -/

/-- A world with a record and so many conflicts pending. -/
def specimenConflicts (c : Nat) : World :=
  ⟨⟨Table.empty.put "eet:a" (Table.empty.put "salt" [7]), c, true⟩, 0, fun _ => specimenNoise, 0⟩

/-- Of three attempts the last one succeeds or fails as well, and one is enough to be refused. -/
theorem run_call_conflicts_specimen :
    let vault : Vault := ⟨.standard, .withMaxAttempts 3, "eet:"⟩
    let rename : Call (Except Fault Reply) := (Request.updateId "a" "b").call vault
    let missing : Call (Except Fault Reply) := (Request.updateId "b" "c").call vault
    ((rename.run (specimenConflicts 2)).1 = .ok .done ∧
      rename.deeds (specimenConflicts 2) =
        [.transaction, .pause 10, .transaction, .pause 20, .transaction]) ∧
    ((rename.run (specimenConflicts 5)).1 = .error .maxAttempts ∧
      (rename.run (specimenConflicts 5)).2.store.pendingConflicts = 2 ∧
      (rename.run (specimenConflicts 5)).2.clock = 30) ∧
    (missing.run (specimenConflicts 5)).1 = .error (.notFound "b") ∧
      (missing.run (specimenConflicts 5)).2.store = (specimenConflicts 5).store := by
  intro vault rename missing
  have hrename : (Request.updateId "a" "b").refusal? vault (specimenConflicts 0).store.records =
      none := by
    decide +kernel
  have hmissing : (Request.updateId "b" "c").refusal? vault (specimenConflicts 0).store.records =
      some (.notFound "b") := by
    decide +kernel
  have htwo := (run_call_conflicts (v := vault) (n := 3) (r := .updateId "a" "b") rfl rfl
    (specimenConflicts 2) rfl).2.1 hrename (by decide)
  have hfive := (run_call_conflicts (v := vault) (n := 3) (r := .updateId "a" "b") rfl rfl
    (specimenConflicts 5) rfl).2.2 hrename (by decide)
  have hrefused := (run_call_conflicts (v := vault) (n := 3) (r := .updateId "b" "c") rfl rfl
    (specimenConflicts 5) rfl).1 _ hmissing
  refine ⟨⟨htwo.1, htwo.2.2.2.1⟩, ⟨hfive.1, ?_, hfive.2.2.1⟩, hrefused.1, hrefused.2.1⟩
  have hstore := hfive.2.1
  rw [hstore]
  rfl

end FiscalGateway.Vault
