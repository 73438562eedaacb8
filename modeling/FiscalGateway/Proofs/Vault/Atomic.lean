import FiscalGateway.Proofs.Vault.Quiet
import FiscalGateway.Proofs.Vault.Registry

/-!
# Atomic calls — an operation takes effect at one moment

An operation is a loop of attempts, and others may do as they please between two of them. Still it
takes effect at one moment (`Atomic`): each of its transactions leaves the records as they are and
lets it go on, or is the last thing it does, and then has the effect that the whole operation has
where nothing interferes (`Alone`). An operation that runs out of attempts has no effect at all.
`takesEffectOnce_call` says so for every request.
-/

namespace FiscalGateway.Vault

variable {α β ε : Type}

/-! ## Calls that nothing interferes with -/

/-- What a call does where nothing interferes: from these records, with these random octets to
draw, it has this outcome and leaves those records. -/
def Alone (c : Call α) (noise : Noise) (before : Table Record) (a : α) (after : Table Record) :
    Prop :=
  ∀ w : World, w.Quiet → w.store.records = before → w.noise w.drawn = noise →
    (Call.run c w).1 = a ∧ (Call.run c w).2.store.records = after

/-- A store that nothing interferes with. -/
def Store.quiet (records : Table Record) : Store := ⟨records, 0, true⟩

theorem World.Quiet.store_eq {w : World} (h : w.Quiet) : w.store = .quiet w.store.records := by
  obtain ⟨⟨records, pending, available⟩, clock, noise, drawn⟩ := w
  obtain ⟨rfl, rfl⟩ := h
  rfl

namespace Alone

variable {v : Vault} {noise : Noise} {before after : Table Record}

theorem transact {t : Transaction α} {a : α}
    (h : (Store.quiet before).answer t = (.ok a, .quiet after)) (noise : Noise) :
    Alone (transact t) noise before (.ok a) after := by
  intro w hw hbefore _
  have hstore : w.store = .quiet before := by rw [hw.store_eq, hbefore]
  rw [run_transact hw (by rw [hstore, h])]
  exact ⟨rfl, rfl⟩

theorem andThen {c : Call (Except Fault α)} {a : Except Fault α}
    (h : Alone c noise before a after) (f : α → Except Fault β) :
    Alone (andThen c f) noise before (a >>= f) after := by
  intro w hw hbefore hnoise
  obtain ⟨ha, hafter⟩ := h w hw hbefore hnoise
  rw [run_andThen]
  exact ⟨by rw [ha], hafter⟩

/-- An attempt that meets no conflict is all that is made. -/
theorem persist {attempt : Call (Except Fault α)} {a : Except Fault α}
    (h : Alone attempt noise before a after) (ha : a ≠ .error .conflict) :
    Alone (v.persist attempt) noise before a after := by
  intro w hw hbefore hnoise
  obtain ⟨hout, hafter⟩ := h w hw hbefore hnoise
  rw [run_persist (by rw [hout]; exact ha)]
  exact ⟨hout, hafter⟩

theorem draw {f : Noise → Call α} {a : α} (h : ∀ other, Alone (f noise) other before a after) :
    Alone (Program.request .draw >>= f) noise before a after := by
  intro w hw hbefore hnoise
  rw [run_bind, run_draw, hnoise]
  exact h _ w.draw hw.draw hbefore rfl

end Alone

/-! ## One moment -/

/-- **A call that takes effect at most once**: a transaction leaves the records and lets it go on,
or is the last one, with an effect that `commits` allows. If it ends without effect, then as `idle`
says. `drawn` is what it has drawn last. -/
def Atomic (commits : Option Noise → Table Record → α → Table Record → Prop)
    (idle : Option Noise → α → Prop) : Option Noise → Call α → Prop
  | drawn, .done a => idle drawn a
  | drawn, .ask (.transact t) next => ∀ s : Store,
      (s.answer t).2.records = s.records ∧ Atomic commits idle drawn (next (s.answer t).1) ∨
        ∃ a, next (s.answer t).1 = .done a ∧ commits drawn s.records a (s.answer t).2.records
  | drawn, .ask (.sleep _) next => Atomic commits idle drawn (next ())
  | _, .ask .draw next => ∀ noise, Atomic commits idle (some noise) (next noise)

namespace Atomic

variable {commits : Option Noise → Table Record → α → Table Record → Prop}
  {idle : Option Noise → α → Prop} {drawn : Option Noise}

/-- **Calls in sequence**: what follows an effect has to end at once. -/
theorem bind {commits' : Option Noise → Table Record → β → Table Record → Prop}
    {idle' : Option Noise → β → Prop} {f : α → Call β} {c : Call α}
    (h : Atomic commits idle drawn c)
    (hidle : ∀ drawn a, idle drawn a → Atomic commits' idle' drawn (f a))
    (hcommits : ∀ drawn before a after, commits drawn before a after →
      ∃ b, f a = .done b ∧ commits' drawn before b after) :
    Atomic commits' idle' drawn (c >>= f) := by
  induction c generalizing drawn with
  | done a => exact hidle drawn a h
  | ask r next ih =>
    cases r with
    | transact t =>
      intro s
      rcases h s with ⟨hrecords, hnext⟩ | ⟨a, ha, hcommit⟩
      · exact .inl ⟨hrecords, ih _ hnext⟩
      · -- what follows an effect ends at once, so the effect is the last thing the whole call does
        obtain ⟨b, hb, hcommit'⟩ := hcommits drawn _ a _ hcommit
        have hend : next (s.answer t).1 >>= f = .done b := by rw [ha, Program.done_bind, hb]
        exact .inr ⟨b, hend, hcommit'⟩
    | sleep ms => exact ih () h
    | draw => exact fun noise => ih noise (h noise)

/-- What is allowed may be said in weaker words. -/
theorem mono {commits' : Option Noise → Table Record → α → Table Record → Prop}
    {idle' : Option Noise → α → Prop} {c : Call α} (h : Atomic commits idle drawn c)
    (hidle : ∀ drawn a, idle drawn a → idle' drawn a)
    (hcommits : ∀ drawn before a after, commits drawn before a after →
      commits' drawn before a after) : Atomic commits' idle' drawn c := by
  have hbind : Atomic commits' idle' drawn (c >>= .done) :=
    h.bind hidle fun d before a after hcommit => ⟨a, rfl, hcommits d before a after hcommit⟩
  rwa [Program.bind_done] at hbind

end Atomic

/-! ## Transactions -/

namespace Store

variable (s : Store)

/-- A transaction that writes meets a conflict and writes nothing, or does write. -/
theorem commit_cases (a : α) (records : Table Record) :
    (s.commit a records).1 = .error .conflict ∧ (s.commit a records).2.records = s.records ∨
      (s.commit a records).1 = .ok a ∧
        (quiet s.records).commit a records = (.ok a, quiet (s.commit a records).2.records) := by
  unfold commit
  split
  · exact .inr ⟨rfl, rfl⟩
  · exact .inl ⟨rfl, rfl⟩

/-- **A transaction meets a conflict and changes nothing**, or is answered as by a store that
nothing interferes with. -/
theorem answer_cases (t : Transaction α) :
    (s.answer t).1 = .error .conflict ∧ (s.answer t).2.records = s.records ∨
      ∃ a, (s.answer t).1 = .ok a ∧
        (quiet s.records).answer t = (.ok a, quiet (s.answer t).2.records) := by
  cases t with
  | insert key fields =>
    have hquiet : (quiet s.records).records = s.records := rfl
    simp only [answer, insert, hquiet]
    split
    · exact .inr ⟨_, rfl, rfl⟩
    · exact (s.commit_cases ..).imp id fun h => ⟨_, h⟩
  | rename source target =>
    have hquiet : (quiet s.records).records = s.records := rfl
    simp only [answer, rename, hquiet]
    cases s.records.get? source with
    | none => exact .inr ⟨_, rfl, rfl⟩
    | some r =>
      dsimp only
      split
      · exact .inr ⟨_, rfl, rfl⟩
      · exact (s.commit_cases ..).imp id fun h => ⟨_, h⟩
  | update key change =>
    have hrecord : (quiet s.records).record key = s.record key := rfl
    simp only [answer, update, hrecord]
    cases change (s.record key) with
    | error e => exact .inr ⟨_, rfl, rfl⟩
    | ok fields => exact (s.commit_cases ..).imp id fun h => ⟨_, h⟩
  | read key => exact .inr ⟨_, rfl, rfl⟩
  | delete key => exact .inr ⟨_, rfl, rfl⟩
  | scan start => exact .inr ⟨_, rfl, rfl⟩
  | ping => exact .inr ⟨_, rfl, rfl⟩

theorem available_commit (a : α) (records : Table Record) :
    (s.commit a records).2.available = s.available := by
  unfold commit
  split <;> rfl

/-- Whether the store is in reach is not for a transaction to say. -/
theorem available_answer (t : Transaction α) : (s.answer t).2.available = s.available := by
  cases t with
  | insert key fields =>
    simp only [answer, insert]
    split
    · rfl
    · exact s.available_commit ..
  | rename source target =>
    simp only [answer, rename]
    split
    · rfl
    · split
      · rfl
      · exact s.available_commit ..
  | update key change =>
    simp only [answer, update]
    split
    · rfl
    · exact s.available_commit ..
  | read key => rfl
  | delete key => rfl
  | scan start => rfl
  | ping => rfl

end Store

/-- Whether a transaction may meet a conflict. -/
def Transaction.Conflicts (t : Transaction α) : Prop :=
  ∃ s : Store, (s.answer t).1 = .error .conflict

/-- One transaction is atomic. -/
theorem atomic_transact (t : Transaction α) (drawn : Option Noise) :
    Atomic (fun d before a after => d = drawn ∧
        ∃ b, a = .ok b ∧ (Store.quiet before).answer t = (.ok b, .quiet after))
      (fun d a => d = drawn ∧ a = .error .conflict ∧ t.Conflicts) drawn (transact t) := by
  intro s
  rcases s.answer_cases t with ⟨hconflict, hrecords⟩ | ⟨a, ha, hquiet⟩
  · refine .inl ⟨hrecords, rfl, ?_, s, hconflict⟩
    rw [hconflict]
    rfl
  · exact .inr ⟨.ok a, by rw [ha]; rfl, rfl, a, rfl, hquiet⟩

/-! ## Attempts -/

section Attempts

variable {v : Vault} {commits : Option Noise → Table Record → Except Fault α → Table Record → Prop}
  {known : Option Noise → Prop} {idle : Option Noise → Except Fault α → Prop}
  {attempt : Call (Except Fault α)} {drawn : Option Noise}

/-- What is made of the outcome of a call keeps it atomic. -/
theorem Atomic.andThen {c : Call (Except Fault α)} (h : Atomic commits idle drawn c)
    (f : α → Except Fault β) :
    Atomic (fun d before b after => ∃ a, commits d before a after ∧ b = a >>= f)
      (fun d b => ∃ a, idle d a ∧ b = a >>= f) drawn (Vault.andThen c f) :=
  h.bind (fun _ a ha => ⟨a, ha, rfl⟩) fun _ _ a _ hcommit => ⟨a >>= f, rfl, a, hcommit, rfl⟩

/-- **A loop of attempts is atomic** if each attempt is, whatever of `known` is drawn before it: an
attempt that meets a conflict has no effect, and one that has an effect is the last one. -/
theorem atomic_retryFrom (policy : RetryPolicy)
    (hattempt : ∀ d, known d → Atomic commits (fun d a => known d ∧ a = .error .conflict) d attempt)
    (hcommits : ∀ d before a after, commits d before a after → a ≠ .error .conflict)
    (left k : Nat) (hdrawn : known drawn) :
    Atomic (fun d before out after => ∃ a, commits d before a after ∧ out = a.mapError .aborted)
      (fun _ out => ∃ n, out = .error (.exhausted n .conflict)) drawn
      (retryFrom policy isConflict attempt (fun ms => Program.request (.sleep ms)) k left) := by
  -- an error that comes with an effect ends the loop
  have hends : ∀ {d before e after}, commits d before (.error e) after → isConflict e = false := by
    intro d before e after hcommit
    simpa [isConflict] using hcommits d before _ after hcommit
  induction left generalizing k drawn with
  | zero =>
    refine (hattempt drawn hdrawn).bind ?_ fun d before a after hcommit => ?_
    · rintro d _ ⟨-, rfl⟩
      exact ⟨k + 1, rfl⟩
    · cases a with
      | ok a => exact ⟨_, rfl, _, hcommit, rfl⟩
      | error e => exact ⟨_, by simp only [hends hcommit]; rfl, _, hcommit, rfl⟩
  | succ left ih =>
    refine (hattempt drawn hdrawn).bind ?_ fun d before a after hcommit => ?_
    · -- the attempt met a conflict: it sleeps, and the rest of the loop is atomic
      rintro d _ ⟨hd, rfl⟩
      exact ih (k + 1) hd
    · cases a with
      | ok a => exact ⟨_, rfl, _, hcommit, rfl⟩
      | error e => exact ⟨_, by simp only [hends hcommit]; rfl, _, hcommit, rfl⟩

/-- Attempts that are persisted in have the effect of one, or end for want of more attempts. -/
theorem atomic_persist
    (hattempt : ∀ d, known d → Atomic commits (fun d a => known d ∧ a = .error .conflict) d attempt)
    (hcommits : ∀ d before a after, commits d before a after → a ≠ .error .conflict)
    (hdrawn : known drawn) :
    Atomic commits (fun _ a => a = .error .maxAttempts) drawn (v.persist attempt) := by
  refine (atomic_retryFrom v.policy hattempt hcommits _ 0 hdrawn).bind ?_ ?_
  · rintro d _ ⟨n, rfl⟩
    rfl
  · rintro d before _ after ⟨a, hcommit, rfl⟩
    refine ⟨a, ?_, hcommit⟩
    cases a <;> rfl

end Attempts

/-! ## Operations -/

/-- An outcome that is the operation's own, and not for want of a quiet moment. -/
def IsFinal (a : Except Fault α) : Prop := a ≠ .error .conflict ∧ a ≠ .error .maxAttempts

@[simp] theorem isFinal_ok (a : α) : IsFinal (.ok a) := ⟨by simp, by simp⟩

@[simp] theorem isFinal_error {e : Fault} :
    IsFinal (.error e : Except Fault α) ↔ e ≠ .conflict ∧ e ≠ .maxAttempts := by
  simp [IsFinal]

theorem IsFinal.bind {a : Except Fault α} (ha : IsFinal a) {f : α → Except Fault β}
    (hf : ∀ a, IsFinal (f a)) : IsFinal (a >>= f) := by
  cases a with
  | ok a => exact hf a
  | error e =>
    have hne : e ≠ .conflict ∧ e ≠ .maxAttempts :=
      ⟨fun h => ha.1 (congrArg _ h), fun h => ha.2 (congrArg _ h)⟩
    exact ⟨fun h => hne.1 (Except.error.inj h), fun h => hne.2 (Except.error.inj h)⟩

/-- **An operation takes effect once**, with the effect that it has alone, or ends for want of more
attempts without effect. If it draws, its effect is that of what it has drawn last. -/
def TakesEffectOnce (draws : Bool) (c : Call (Except Fault α)) : Prop :=
  Atomic (fun d before a after => IsFinal a ∧
      ∃ noise, (draws = true → d = some noise) ∧ Alone c noise before a after)
    (fun _ a => a = .error .maxAttempts) none c

section Shapes

variable {v : Vault} {t : Transaction α} {f : α → Except Fault β} {drawn : Option Noise}

/-- A transaction that meets no conflict, and no attempts. -/
theorem takesEffectOnce_transact (ht : ¬ t.Conflicts) (hf : ∀ a, IsFinal (f a)) :
    TakesEffectOnce false (andThen (transact t) f) := by
  refine ((atomic_transact t none).andThen f).mono ?_ ?_
  · rintro _ _ ⟨_, ⟨-, -, hconflicts⟩, -⟩
    exact absurd hconflicts ht
  · rintro _ before _ after ⟨_, ⟨-, a, rfl, hanswer⟩, rfl⟩
    exact ⟨hf a, default, by simp, (Alone.transact hanswer default).andThen f⟩

/-- A transaction that is persisted in, whatever was drawn before. -/
theorem atomic_persist_transact (hf : ∀ a, IsFinal (f a)) :
    Atomic (fun d before b after => d = drawn ∧ IsFinal b ∧
        ∀ noise, Alone (andThen (v.persist (transact t)) f) noise before b after)
      (fun _ b => b = .error .maxAttempts) drawn (andThen (v.persist (transact t)) f) := by
  have hattempt : ∀ d, d = drawn → Atomic (fun d before a after => d = drawn ∧
      ∃ b, a = .ok b ∧ (Store.quiet before).answer t = (.ok b, .quiet after))
      (fun d a => d = drawn ∧ a = .error .conflict) d (transact t) := by
    rintro _ rfl
    exact (atomic_transact t _).mono (fun _ _ h => ⟨h.1, h.2.1⟩) fun _ _ _ _ h => h
  refine ((atomic_persist hattempt ?_ rfl).andThen f).mono ?_ ?_
  · rintro _ _ _ _ ⟨-, b, rfl, -⟩
    nofun
  · rintro _ _ ⟨_, rfl, rfl⟩
    rfl
  · rintro d before _ after ⟨_, ⟨hd, a, rfl, hanswer⟩, rfl⟩
    refine ⟨hd, hf a, fun noise => ?_⟩
    exact ((Alone.transact hanswer noise).persist nofun).andThen f

theorem takesEffectOnce_persist (hf : ∀ a, IsFinal (f a)) :
    TakesEffectOnce false (andThen (v.persist (transact t)) f) :=
  (atomic_persist_transact hf).mono (fun _ _ h => h) fun _ _ _ _ h =>
    ⟨h.2.1, default, by simp, h.2.2 default⟩

/-- A transaction that is made of what is drawn once, and persisted in. -/
theorem takesEffectOnce_draw {t : Noise → Transaction α} (hf : ∀ a, IsFinal (f a)) :
    TakesEffectOnce true
      (Program.request .draw >>= fun noise => andThen (v.persist (transact (t noise))) f) := by
  intro noise
  refine (atomic_persist_transact hf).mono (fun _ _ h => h) fun d before b after h => ?_
  obtain ⟨rfl, hfinal, halone⟩ := h
  exact ⟨hfinal, noise, fun _ => rfl, Alone.draw halone⟩

/-- A transaction that is made anew at each attempt, of what is drawn for it. -/
theorem takesEffectOnce_persist_draw {t : Noise → Transaction (Except Fault α)}
    {f : α → Except Fault β} (hf : ∀ a, IsFinal (f a))
    (ht : ∀ noise before a after, (Store.quiet before).answer (t noise) = (.ok a, .quiet after) →
      IsFinal a) :
    TakesEffectOnce true (andThen (v.persist do
      let noise ← Program.request .draw
      andThen (transact (t noise)) fun a => a) f) := by
  let attempt : Call (Except Fault α) := do
    let noise ← Program.request .draw
    andThen (transact (t noise)) fun a => a
  have hattempt : ∀ d, True → Atomic (fun d before a after => IsFinal a ∧
      ∃ noise, d = some noise ∧ Alone attempt noise before a after)
      (fun _ a => True ∧ a = .error .conflict) d attempt := by
    intro _ _ noise
    refine ((atomic_transact (t noise) (some noise)).andThen fun a => a).mono ?_ ?_
    · rintro _ _ ⟨_, ⟨-, rfl, -⟩, rfl⟩
      exact ⟨trivial, rfl⟩
    · rintro _ before b after ⟨_, ⟨rfl, a, rfl, hanswer⟩, hb⟩
      obtain rfl : b = a := hb
      refine ⟨ht noise before b after hanswer, noise, rfl, ?_⟩
      exact Alone.draw fun other => (Alone.transact hanswer other).andThen fun a => a
  -- of all that is drawn, an effect uses what was drawn last
  refine ((atomic_persist hattempt (fun _ _ _ _ h => h.1.1) trivial).andThen f).mono ?_ ?_
  · rintro _ _ ⟨_, rfl, rfl⟩
    rfl
  · rintro d before _ after ⟨_, ⟨hfinal, noise, hd, halone⟩, rfl⟩
    exact ⟨hfinal.bind hf, noise, fun _ => hd, (halone.persist hfinal.1).andThen f⟩

end Shapes

/-! ## Requests -/

theorem andThen_andThen {γ : Type} (c : Call (Except Fault α)) (f : α → Except Fault β)
    (g : β → Except Fault γ) : andThen (andThen c f) g = andThen c fun a => f a >>= g := by
  simp only [andThen, Program.bind_assoc]
  congr 1
  funext a
  cases a <;> rfl

theorem isFinal_requireField (r : Record) (name : String) : IsFinal (requireField r name) := by
  unfold requireField
  split
  · exact isFinal_ok _
  · simp

theorem isFinal_openText (g : Sealing) (key sealed : Octets) :
    IsFinal (g.openText key sealed) := by
  unfold Sealing.openText
  split
  · simp
  · dsimp only
    split
    · exact isFinal_ok _
    · simp

/-- What is wrong with a record, or with a password, is final. -/
theorem isFinal_openFound (v : Vault) (id : String) (password : Octets) (r : Record) :
    IsFinal (v.openFound id password r) := by
  have hopen : IsFinal (v.sealing.openRecord password r) := by
    unfold Sealing.openRecord
    refine (isFinal_requireField r saltField).bind fun salt => ?_
    split
    · exact isFinal_error.2 (by simp)
    refine (isFinal_requireField r certificateField).bind fun sealedCertificate => ?_
    refine (isFinal_openText ..).bind fun certificateText => ?_
    refine (isFinal_requireField r keyField).bind fun sealedKey => ?_
    refine (isFinal_openText ..).bind fun keyText => ?_
    split
    · exact isFinal_error.2 (by simp)
    · exact isFinal_error.2 (by simp)
    · split
      · exact isFinal_ok _
      · exact isFinal_error.2 (by simp)
  unfold openFound
  split
  · simp
  · exact hopen

/-- What a change of password comes to is final. -/
theorem isFinal_of_resealed {v : Vault} {id : String} {oldPassword newPassword : Octets}
    {noise : Noise} {before after : Table Record} {a : Except Fault Unit}
    (hanswer : (Store.quiet before).answer (.update (v.recordKey id)
      (v.resealed id oldPassword newPassword noise)) = (.ok a, .quiet after)) : IsFinal a := by
  have hfinal := isFinal_openFound v id oldPassword ((Store.quiet before).record (v.recordKey id))
  simp only [Store.answer, Store.update, resealed] at hanswer
  cases hopen : v.openFound id oldPassword ((Store.quiet before).record (v.recordKey id)) with
  | error e =>
    rw [hopen] at hanswer hfinal
    obtain rfl : .error e = a := Except.ok.inj (Prod.mk.inj hanswer).1
    exact hfinal.bind (f := fun _ => .ok ()) fun _ => isFinal_ok ()
  | ok pair =>
    rw [hopen] at hanswer
    obtain rfl : .ok () = a := Except.ok.inj (Prod.mk.inj hanswer).1
    exact isFinal_ok ()

/-- Whether a request draws random octets. -/
def Request.draws : Request → Bool
  | .store .. | .updatePassword .. => true
  | .get .. | .list .. | .updateId .. | .delete .. => false

/-- **Every request takes effect at one moment**, or not at all. -/
theorem takesEffectOnce_call (v : Vault) (r : Request) : TakesEffectOnce r.draws (r.call v) := by
  cases r with
  | store id password pair =>
    -- the octets are drawn once, in front of all attempts
    have hcall : Request.call v (.store id password pair) =
        Program.request .draw >>= fun noise =>
          andThen (v.persist (transact (.insert (v.recordKey id)
            (v.sealing.sealPair password noise pair)))) fun inserted =>
              (if inserted then .ok () else .error (.idExists id)) >>= fun _ => .ok .done := by
      simp only [Request.call, store, ← andThen_andThen]
      rfl
    rw [hcall]
    refine takesEffectOnce_draw fun inserted => ?_
    cases inserted with
    | false => exact isFinal_error.2 (by simp)
    | true => exact isFinal_ok _
  | get id password =>
    rw [Request.call, get, andThen_andThen]
    have hcalm : ¬ (Transaction.read (v.recordKey id)).Conflicts := by
      simp [Transaction.Conflicts, Store.answer]
    refine takesEffectOnce_transact hcalm fun r => ?_
    exact (isFinal_openFound v id password r).bind fun pair => isFinal_ok _
  | list offset limit =>
    rw [Request.call, list, andThen_andThen]
    have hcalm : ¬ (Transaction.scan v.space).Conflicts := by
      simp [Transaction.Conflicts, Store.answer]
    exact takesEffectOnce_transact hcalm fun keys => isFinal_ok _
  | updateId oldId newId =>
    rw [Request.call, updateId, andThen_andThen]
    refine takesEffectOnce_persist fun outcome => ?_
    cases outcome with
    | renamed => exact isFinal_ok _
    | sourceMissing => exact isFinal_error.2 (by simp)
    | targetExists => exact isFinal_error.2 (by simp)
  | updatePassword id oldPassword newPassword =>
    exact takesEffectOnce_persist_draw (fun _ => isFinal_ok _) fun _ _ _ _ => isFinal_of_resealed
  | delete id =>
    rw [Request.call, delete, andThen_andThen]
    have hcalm : ¬ (Transaction.delete (v.recordKey id)).Conflicts := by
      simp [Transaction.Conflicts, Store.answer, Store.delete]
    refine takesEffectOnce_transact hcalm fun deleted => ?_
    cases deleted with
    | false => exact isFinal_error.2 (by simp)
    | true => exact isFinal_ok _

end FiscalGateway.Vault
