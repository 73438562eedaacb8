import FiscalGateway.Proofs.Vault.Sealed
import FiscalGateway.Vault.World

/-!
# Quiet worlds — what each operation does while nothing interferes

In a world whose store is in reach and meets no conflict an operation makes one attempt, whatever
the policy is (`run_persist`). There is one lemma for each operation: what it replies and which
records there are behind it. Nothing else is needed of the operations.
-/

namespace FiscalGateway.Vault

variable {α β ε : Type} {v : Vault} {w : World}

/-- The world with other records. -/
def World.withRecords (w : World) (records : Table Record) : World :=
  { w with store := { w.store with records := records } }

/-- The world after a draw. -/
def World.draw (w : World) : World := { w with drawn := w.drawn + 1 }

/-- **A world in which nothing interferes.** -/
structure World.Quiet (w : World) : Prop where
  available : w.store.available = true
  pendingConflicts : w.store.pendingConflicts = 0

theorem World.Quiet.withRecords (h : w.Quiet) (records : Table Record) :
    (w.withRecords records).Quiet :=
  ⟨h.available, h.pendingConflicts⟩

theorem World.Quiet.draw (h : w.Quiet) : w.draw.Quiet := ⟨h.available, h.pendingConflicts⟩

/-- Noise that tells nothing apart. -/
def specimenNoise : Noise :=
  ⟨List.replicate 16 0, List.replicate 12 0, List.replicate 12 0, rfl, rfl, rfl⟩

instance : Inhabited Noise := ⟨specimenNoise⟩

/-! ## Running a computation -/

theorem run_bind (c : Call α) (f : α → Call β) :
    Call.run (c >>= f) w = Call.run (f (Call.run c w).1) (Call.run c w).2 := by
  simp only [Call.run, Program.eval_bind]
  rfl

theorem run_draw : Call.run (Program.request .draw) w = (w.noise w.drawn, w.draw) := rfl

theorem run_andThen (c : Call (Except Fault α)) (f : α → Except Fault β) :
    Call.run (andThen c f) w = ((Call.run c w).1 >>= f, (Call.run c w).2) := by
  rw [andThen, run_bind]
  rfl

theorem run_request (t : Transaction α) : Call.run (Program.request (.transact t)) w =
    ((w.store.run t).1, { w with store := (w.store.run t).2 }) := rfl

theorem run_transact (h : w.Quiet) {t : Transaction α} {a : α} {s : Store}
    (ha : w.store.answer t = (.ok a, s)) :
    Call.run (transact t) w = (.ok a, { w with store := s }) := by
  rw [transact, run_bind, run_request, Store.run, if_pos h.available, ha]
  rfl

/-- Records are written when no conflict is pending. -/
theorem commit_eq (h : w.Quiet) (a : α) (records : Table Record) :
    w.store.commit a records = (.ok a, (w.withRecords records).store) := by
  unfold Store.commit
  split
  · rfl
  · next n hn => rw [h.pendingConflicts] at hn; contradiction

/-- **An attempt that meets no conflict is the only one.** -/
theorem run_persist {attempt : Call (Except Fault α)}
    (h : (Call.run attempt w).1 ≠ .error .conflict) :
    Call.run (v.persist attempt) w = Call.run attempt w := by
  have hattempt (left : Nat) : Call.run (retryFrom v.policy isConflict attempt
      (fun ms => Program.request (.sleep ms)) 0 left) w =
        ((Call.run attempt w).1.mapError .aborted, (Call.run attempt w).2) := by
    cases left <;> rw [retryFrom, run_bind] <;> generalize Call.run attempt w = outcome at h
    all_goals
      obtain ⟨e | a, w'⟩ := outcome
      · have he : isConflict e = false := by simpa [isConflict] using h
        simp only [he]
        rfl
      · rfl
  rw [persist, run_bind, retry, hattempt]
  generalize Call.run attempt w = outcome at h
  obtain ⟨e | a, w'⟩ := outcome <;> rfl

theorem run_persist_transact (h : w.Quiet) {t : Transaction α} {a : α} {s : Store}
    (ha : w.store.answer t = (.ok a, s)) :
    Call.run (v.persist (transact t)) w = (.ok a, { w with store := s }) := by
  have htransact := run_transact h ha
  rw [run_persist (by rw [htransact]; simp), htransact]

/-! ## The operations -/

variable (v) (id oldId newId : String) (password oldPassword newPassword : Octets)
  (pair : Pki.KeyPair)

/-- Storing draws once, and writes a record where there is none. -/
theorem run_store (h : w.Quiet) : Call.run (v.store id password pair) w =
    if w.store.records.contains (v.recordKey id) then (.error (.idExists id), w.draw)
    else (.ok (), w.draw.withRecords (w.store.records.put (v.recordKey id)
      (v.sealing.record password (w.noise w.drawn) pair))) := by
  have hanswer : w.draw.store.answer (.insert (v.recordKey id)
      (v.sealing.sealPair password (w.noise w.drawn) pair)) =
        w.store.insert (v.recordKey id) (v.sealing.sealPair password (w.noise w.drawn) pair) := rfl
  unfold Store.insert at hanswer
  rw [store, run_bind, run_draw]
  dsimp only
  rw [run_andThen]
  split at hanswer
  · next hc => rw [run_persist_transact h.draw hanswer, if_pos hc]; rfl
  · next hc =>
    rw [run_persist_transact h.draw (hanswer.trans (commit_eq h ..)), if_neg hc]
    rfl

/-- Getting changes nothing. -/
theorem run_get (h : w.Quiet) : Call.run (v.get id password) w =
    (v.openFound id password (w.store.record (v.recordKey id)), w) := by
  rw [get, run_andThen, run_transact h (a := w.store.record (v.recordKey id)) rfl]
  rfl

/-- Reading changes nothing, whether the store is in reach or not. -/
theorem run_get_snd (v : Vault) (id : String) (password : Octets) (w : World) :
    (Call.run (v.get id password) w).2 = w := by
  rw [get, run_andThen, transact, run_bind, run_request]
  have hstore : (w.store.run (.read (v.recordKey id))).2 = w.store := by
    unfold Store.run
    split <;> rfl
  rw [hstore]
  rfl

/-- Listing changes nothing. -/
theorem run_list (h : w.Quiet) (offset limit : Nat) : Call.run (v.list offset limit) w =
    (.ok (((((w.store.records.keys.filter (beginsWith v.space)).filterMap v.identifier?).mergeSort
      (· ≤ ·)).drop offset).take limit), w) := by
  rw [list, run_andThen,
    run_transact h (a := w.store.records.keys.filter (beginsWith v.space)) rfl]
  rfl

/-- Renaming moves a record as it is. -/
theorem run_updateId (h : w.Quiet) : Call.run (v.updateId oldId newId) w =
    match w.store.records.get? (v.recordKey oldId) with
    | none => (.error (.notFound oldId), w)
    | some r =>
      if w.store.records.contains (v.recordKey newId) then (.error (.idExists newId), w)
      else (.ok (), w.withRecords
        ((w.store.records.erase (v.recordKey oldId)).put (v.recordKey newId) r)) := by
  rw [updateId, run_andThen]
  -- one answer for each branch of the transaction; only the last of them writes
  have hanswer : w.store.answer (.rename (v.recordKey oldId) (v.recordKey newId)) =
      w.store.rename (v.recordKey oldId) (v.recordKey newId) := rfl
  unfold Store.rename at hanswer
  cases hr : w.store.records.get? (v.recordKey oldId) with
  | none =>
    rw [hr] at hanswer
    rw [run_persist_transact h hanswer]
    rfl
  | some r =>
    rw [hr] at hanswer
    dsimp only at hanswer ⊢
    split at hanswer
    · next hc => rw [run_persist_transact h hanswer, if_pos hc]; rfl
    · next hc =>
      rw [run_persist_transact h (hanswer.trans (commit_eq h ..)), if_neg hc]
      rfl

/-- Deleting takes a record out, if there is one. -/
theorem run_delete (h : w.Quiet) : Call.run (v.delete id) w =
    (if w.store.records.contains (v.recordKey id) then .ok () else .error (.notFound id),
      w.withRecords (w.store.records.erase (v.recordKey id))) := by
  rw [delete, run_andThen, run_transact h (a := w.store.records.contains (v.recordKey id)) rfl]
  rfl

variable {id oldPassword}

/-- Changing a password draws once, and writes the record anew if the old password opens it. -/
theorem run_updatePassword (h : w.Quiet)
    (hne : v.openFound id oldPassword (w.store.record (v.recordKey id)) ≠ .error .conflict) :
    Call.run (v.updatePassword id oldPassword newPassword) w =
      match v.openFound id oldPassword (w.store.record (v.recordKey id)) with
      | .error e => (.error e, w.draw)
      | .ok pair => (.ok (), w.draw.withRecords (w.store.records.put (v.recordKey id)
        ((w.store.record (v.recordKey id)).putAll
          (v.sealing.sealPair newPassword (w.noise w.drawn) pair)))) := by
  -- the draw belongs to the attempt, so `run_persist_transact` does not apply
  have hrun {outcome : Except Fault Unit} {s : Store} (houtcome : outcome ≠ .error .conflict)
      (hanswer : w.draw.store.answer (.update (v.recordKey id)
        (v.resealed id oldPassword newPassword (w.noise w.drawn))) = (.ok outcome, s)) :
      Call.run (v.updatePassword id oldPassword newPassword) w =
        (outcome, { w.draw with store := s }) := by
    have hattempt := run_transact h.draw hanswer
    rw [updatePassword, run_persist] <;> rw [run_bind, run_draw] <;> dsimp only <;>
      rw [run_andThen, hattempt]
    · rfl
    · exact houtcome
  have hanswer : w.draw.store.answer (.update (v.recordKey id)
      (v.resealed id oldPassword newPassword (w.noise w.drawn))) =
        w.store.update (v.recordKey id)
          (v.resealed id oldPassword newPassword (w.noise w.drawn)) := rfl
  rw [Store.update, resealed] at hanswer
  cases hopen : v.openFound id oldPassword (w.store.record (v.recordKey id)) with
  | error e =>
    rw [hopen] at hanswer hne
    exact hrun (by simpa using hne) hanswer
  | ok pair =>
    rw [hopen] at hanswer
    exact hrun (by simp) (hanswer.trans (commit_eq h ..))

end FiscalGateway.Vault
