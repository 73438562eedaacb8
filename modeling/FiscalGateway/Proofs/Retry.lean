import FiscalGateway.Proofs.Number.Doubling

/-!
# Retrying — how many attempts, and which waits

Attempts are made up to the first one that settles the matter, or up to the last one allowed
(`lastAttempt`), with a wait after each but the last (`retryDeeds`). This is shown of every state in
which what is done can be noted (`Follows.run_retryFrom`), by induction on the attempts that are
left; a log and the trace of a script are two such states. A loop that has no bound but a counter of
32 bits does the same (`Loops`), so it ends, and the counter does not overflow.
-/

namespace FiscalGateway

variable {ε α σ : Type} {passing : ε → Bool} {script : Nat → Except ε α} {wait : Nat → Nat}

/-! ## Outcomes -/

/-- Whether an outcome is a failure for a passing cause. -/
def isPassing (passing : ε → Bool) : Except ε α → Bool
  | .ok _ => false
  | .error e => passing e

/-- What becomes of the outcome of the last of `m` attempts. -/
def settled (passing : ε → Bool) (m : Nat) : Except ε α → Except (RetryFault ε) α
  | .ok a => .ok a
  | .error e => .error (if passing e then .exhausted m e else .aborted e)

section Outcomes

variable {m : Nat} {outcome : Except ε α} {e : ε}

theorem isPassing_eq_true :
    isPassing passing outcome = true ↔ ∃ e, outcome = .error e ∧ passing e = true := by
  cases outcome <;> simp [isPassing]

theorem settled_of_passing (h : passing e = true) :
    settled passing m (.error e : Except ε α) = .error (.exhausted m e) := by
  rw [settled, if_pos h]

theorem settled_of_not_passing (h : passing e = false) :
    settled passing m (.error e : Except ε α) = .error (.aborted e) := by
  rw [settled, if_neg (Bool.not_eq_true _ ▸ h)]

theorem settled_eq_ok {a : α} : settled passing m outcome = .ok a ↔ outcome = .ok a := by
  cases outcome <;> simp [settled]

theorem settled_eq_aborted :
    settled passing m outcome = .error (.aborted e) ↔ outcome = .error e ∧ passing e = false := by
  cases outcome with
  | ok a => simp [settled]
  | error cause =>
    cases hpass : passing cause with
    | false =>
      rw [settled_of_not_passing hpass]
      constructor
      · rintro ⟨⟩
        exact ⟨rfl, hpass⟩
      · rintro ⟨⟨⟩, -⟩
        rfl
    | true =>
      rw [settled_of_passing hpass]
      constructor
      · exact nofun
      · rintro ⟨⟨⟩, h⟩
        exact absurd hpass (Bool.not_eq_true _ ▸ h)

theorem settled_eq_exhausted {attempts : Nat} :
    settled passing m outcome = .error (.exhausted attempts e) ↔
      attempts = m ∧ outcome = .error e ∧ passing e = true := by
  cases outcome with
  | ok a => simp [settled]
  | error cause =>
    cases hpass : passing cause with
    | false =>
      rw [settled_of_not_passing hpass]
      constructor
      · exact nofun
      · rintro ⟨-, ⟨⟩, h⟩
        exact absurd h (Bool.not_eq_true _ ▸ hpass)
    | true =>
      rw [settled_of_passing hpass]
      constructor
      · rintro ⟨⟩
        exact ⟨rfl, rfl, hpass⟩
      · rintro ⟨rfl, ⟨⟩, -⟩
        rfl

end Outcomes

/-! ## The last attempt -/

/-- **The last attempt**, of those from `k` on of which `left` may be followed by another: the first
one that does not fail for a passing cause, or else the last one allowed. -/
def lastAttempt (passing : ε → Bool) (script : Nat → Except ε α) (k left : Nat) : Nat :=
  ((List.range' k left).find? fun i => !isPassing passing (script i)).getD (k + left)

theorem lastAttempt_zero (k : Nat) : lastAttempt passing script k 0 = k := rfl

theorem lastAttempt_of_isPassing {k : Nat} (h : isPassing passing (script k) = true) (left : Nat) :
    lastAttempt passing script k (left + 1) = lastAttempt passing script (k + 1) left := by
  rw [lastAttempt, List.range'_succ, List.find?_cons_of_neg (by simp [h]), lastAttempt,
    Nat.add_right_comm, Nat.add_assoc k]

theorem lastAttempt_of_not_isPassing {k : Nat} (h : isPassing passing (script k) = false)
    (left : Nat) : lastAttempt passing script k left = k := by
  cases left with
  | zero => rfl
  | succ left =>
    rw [lastAttempt, List.range'_succ, List.find?_cons_of_pos (by simp [h]), Option.getD_some]

/-- All attempts in front of the last one fail for passing causes, and the last one does not, unless
it is the last one allowed. -/
theorem lastAttempt_spec (k left : Nat) :
    k ≤ lastAttempt passing script k left ∧ lastAttempt passing script k left ≤ k + left ∧
    (∀ i, k ≤ i → i < lastAttempt passing script k left → isPassing passing (script i) = true) ∧
    (lastAttempt passing script k left < k + left →
      isPassing passing (script (lastAttempt passing script k left)) = false) := by
  induction left generalizing k with
  | zero =>
    rw [lastAttempt_zero]
    exact ⟨Nat.le_refl _, Nat.le_refl _, fun i h h' => absurd h' (Nat.not_lt.2 h),
      fun h => absurd h (Nat.lt_irrefl _)⟩
  | succ left ih =>
    cases hpass : isPassing passing (script k) with
    | false =>
      rw [lastAttempt_of_not_isPassing hpass]
      exact ⟨Nat.le_refl _, Nat.le_add_right _ _, fun i h h' => absurd h' (Nat.not_lt.2 h),
        fun _ => hpass⟩
    | true =>
      -- the first attempt passes on, and the rest begins one later with one fewer left
      obtain ⟨hle, hle', hbefore, hlast⟩ := ih (k + 1)
      rw [lastAttempt_of_isPassing hpass]
      refine ⟨by omega, by omega, fun i h h' => ?_, fun h => hlast (by omega)⟩
      rcases Nat.eq_or_lt_of_le h with rfl | h
      · exact hpass
      · exact hbefore i h h'

/-! ## What is done -/

/-- What others may notice of a run. -/
inductive RetryDeed where
  | attempt
  | sleep (time : Nat)
  deriving DecidableEq, Repr

/-- The attempts from `k` to `last`, and the waits between them. -/
def retryDeeds (wait : Nat → Nat) (k last : Nat) : List RetryDeed :=
  .attempt :: (List.range' k (last - k)).flatMap fun i => [.sleep (wait i), .attempt]

theorem retryDeeds_self (k : Nat) : retryDeeds wait k k = [.attempt] := by
  simp [retryDeeds]

theorem retryDeeds_of_lt {k last : Nat} (h : k < last) :
    retryDeeds wait k last = .attempt :: .sleep (wait k) :: retryDeeds wait (k + 1) last := by
  obtain ⟨d, hd⟩ : ∃ d, last - k = d + 1 := ⟨last - k - 1, by omega⟩
  have hd' : last - (k + 1) = d := by omega
  rw [retryDeeds, retryDeeds, hd, hd', List.range'_succ, List.flatMap_cons]
  rfl

theorem count_attempt_retryDeeds {k last : Nat} :
    (retryDeeds wait k last).count .attempt = last - k + 1 := by
  have hwaits (is : List Nat) :
      (is.flatMap fun i => [RetryDeed.sleep (wait i), .attempt]).count .attempt = is.length := by
    induction is with
    | nil => rfl
    | cons i is ih => simp [ih]
  rw [retryDeeds, List.count_cons_self, hwaits, List.length_range']

/-! ## Runs -/

section Follows

variable {attempt : StateM σ (Except ε α)} {sleep : Nat → StateM σ Unit} {span : Nat → Nat}
  {note : σ → RetryDeed → σ} {after : Nat → σ → Prop}

/-- What is done is noted in the state (`note`), the waits in the unit of `span`, and after `k`
attempts (`after k`) the next one has the outcome that the script says. -/
structure Follows (script : Nat → Except ε α) (attempt : StateM σ (Except ε α))
    (sleep : Nat → StateM σ Unit) (span : Nat → Nat) (note : σ → RetryDeed → σ)
    (after : Nat → σ → Prop) : Prop where
  attempt_eq : ∀ {k s}, after k s → attempt s = (script k, note s .attempt)
  sleep_eq : ∀ ms s, sleep ms s = ((), note s (.sleep (span ms)))
  after_attempt : ∀ {k s}, after k s → after (k + 1) (note s .attempt)
  after_sleep : ∀ {k s} ms, after k s → after k (note s (.sleep (span ms)))

namespace Follows

variable (hf : Follows script attempt sleep span note after) (policy : RetryPolicy)
  (passing : ε → Bool)

include hf

theorem attempt_bind {β : Type} {k : Nat} {s : σ} (hs : after k s)
    (f : Except ε α → StateM σ β) : (attempt >>= f) s = f (script k) (note s .attempt) := by
  change f (attempt s).1 (attempt s).2 = _
  rw [hf.attempt_eq hs]

theorem sleep_bind {β : Type} (ms : Nat) (f : Unit → StateM σ β) (s : σ) :
    (sleep ms >>= f) s = f () (note s (.sleep (span ms))) := by
  change f (sleep ms s).1 (sleep ms s).2 = _
  rw [hf.sleep_eq]

/-- An attempt that settles the matter is the last one. -/
theorem run_retryFrom_of_not_isPassing (left m : Nat) {k : Nat} {s : σ} (hs : after k s)
    (hpass : isPassing passing (script k) = false) :
    retryFrom policy passing attempt sleep k left s =
      (settled passing m (script k), note s .attempt) := by
  cases houtcome : script k with
  | ok a =>
    cases left <;> rw [retryFrom, hf.attempt_bind hs, houtcome] <;> rfl
  | error e =>
    have hfalse : passing e = false := by rwa [houtcome] at hpass
    rw [settled_of_not_passing hfalse]
    cases left <;> rw [retryFrom, hf.attempt_bind hs, houtcome] <;> dsimp only <;> rw [hfalse] <;> rfl

/-- **The loop of attempts** when `left` more of them may follow attempt `k`: it makes those up to
the last one, waits between them, and ends as that one says. -/
theorem run_retryFrom (left : Nat) {k : Nat} {s : σ} (hs : after k s) :
    retryFrom policy passing attempt sleep k left s =
      (settled passing (k + left + 1) (script (lastAttempt passing script k left)),
        (retryDeeds (fun i => span (policy.delay i)) k
          (lastAttempt passing script k left)).foldl note s) := by
  -- on the attempts left: the state after a wait is that after one attempt more
  induction left generalizing k s with
  | zero =>
    -- no other may follow, so a passing cause exhausts the attempts
    rw [retryFrom, hf.attempt_bind hs, lastAttempt_zero, retryDeeds_self]
    cases script k <;> rfl
  | succ left ih =>
    cases hpass : isPassing passing (script k) with
    | false =>
      rw [hf.run_retryFrom_of_not_isPassing policy passing _ (k + (left + 1) + 1) hs hpass,
        lastAttempt_of_not_isPassing hpass, retryDeeds_self]
      rfl
    | true =>
      obtain ⟨e, houtcome, htrue⟩ := isPassing_eq_true.1 hpass
      have hlt : k < lastAttempt passing script (k + 1) left := (lastAttempt_spec (k + 1) left).1
      rw [retryFrom, hf.attempt_bind hs, houtcome]
      dsimp only
      rw [if_pos htrue, hf.sleep_bind, ih (hf.after_sleep _ (hf.after_attempt hs)),
        lastAttempt_of_isPassing hpass, retryDeeds_of_lt hlt,
        show k + 1 + left + 1 = k + (left + 1) + 1 by omega]
      rfl

/-- **A run from the start**. -/
theorem run_retry {s : σ} (hs : after 0 s) :
    let last := lastAttempt passing script 0 (policy.maxAttempts - 1)
    retry policy passing attempt sleep s =
      (settled passing (policy.maxAttempts - 1 + 1) (script last),
        (retryDeeds (fun k => span (policy.delay k)) 0 last).foldl note s) := by
  have hrun := hf.run_retryFrom policy passing (policy.maxAttempts - 1) hs
  rwa [Nat.zero_add] at hrun

end Follows

end Follows

/-! ### Logs -/

/-- A million nanoseconds are a millisecond. -/
def nanosPerMilli : Nat := 1000000

/-- The whole milliseconds in which a time in nanoseconds has passed. -/
def wholeMillis (time : Nat) : Nat := (time + (nanosPerMilli - 1)) / nanosPerMilli

theorem wholeMillis_lt {time : Nat} (h : time ≤ (UInt64.size - 1) * nanosPerMilli) :
    wholeMillis time < UInt64.size := by
  unfold wholeMillis
  unfold nanosPerMilli UInt64.size at *
  omega

/-- Milliseconds as nanoseconds, of which there are at most `limit`. -/
def cappedNanos (limit ms : Nat) : Nat := min (ms * nanosPerMilli) limit

/-- A limit in whole milliseconds does not cut more than the exact one. -/
theorem cappedNanos_min (limit ms : Nat) :
    cappedNanos limit (min ms (wholeMillis limit)) = cappedNanos limit ms := by
  unfold cappedNanos wholeMillis nanosPerMilli
  omega

/-- A run that is written down, with the waits in nanoseconds. The longest one need not be a whole
number of milliseconds. -/
def retryLog (policy : RetryPolicy) (limit : Nat) (passing : ε → Bool)
    (script : Nat → Except ε α) : Except (RetryFault ε) α × List RetryDeed :=
  retry (m := StateM (List RetryDeed)) policy passing
    (fun log => (script (log.count .attempt), log ++ [.attempt]))
    (fun ms log => ((), log ++ [.sleep (cappedNanos limit ms)])) []

theorem retryLog_eq (policy : RetryPolicy) (limit : Nat) (passing : ε → Bool)
    (script : Nat → Except ε α) :
    let last := lastAttempt passing script 0 (policy.maxAttempts - 1)
    retryLog policy limit passing script =
      (settled passing (policy.maxAttempts - 1 + 1) (script last),
        retryDeeds (fun k => cappedNanos limit (policy.delay k)) 0 last) := by
  have hfollows : Follows script
      (fun log => (script (log.count .attempt), log ++ [.attempt]))
      (fun ms log => ((), log ++ [.sleep (cappedNanos limit ms)])) (cappedNanos limit)
      (fun log deed => log ++ [deed]) (fun k log => log.count .attempt = k) := {
    attempt_eq := by rintro k log rfl; rfl
    sleep_eq := fun ms log => rfl
    after_attempt := by rintro k log rfl; simp
    after_sleep := by rintro k log ms rfl; simp }
  intro last
  rw [retryLog, hfollows.run_retry policy passing rfl, ← List.flatMap_eq_foldl,
    List.flatMap_singleton']

/-! ### Times of calls -/

/-- The deed as a trace notes it. -/
def RetryTrace.note (t : RetryTrace ε α) : RetryDeed → RetryTrace ε α
  | .attempt => { t with calls := t.clock :: t.calls }
  | .sleep time => { t with clock := t.clock + time }

/-- Each attempt is called after the waits in front of it. -/
theorem RetryTrace.calls_foldl_note (t : RetryTrace ε α) (wait : Nat → Nat) {k last : Nat}
    (h : k ≤ last) :
    ((retryDeeds wait k last).foldl note t).calls.reverse =
      t.calls.reverse ++
        (List.range (last - k + 1)).map fun i => t.clock + ((List.range' k i).map wait).sum := by
  obtain ⟨d, rfl⟩ := Nat.exists_eq_add_of_le h
  rw [Nat.add_sub_cancel_left]
  induction d generalizing k t with
  | zero =>
    rw [Nat.add_zero, retryDeeds_self]
    simp [note]
  | succ d ih =>
    rw [retryDeeds_of_lt (by omega), List.foldl_cons, List.foldl_cons,
      show k + (d + 1) = k + 1 + d by omega, ih _ (Nat.le_add_right _ _),
      List.range_succ_eq_map (n := d + 1)]
    simp [note, List.range'_succ, Nat.add_assoc, Function.comp_def]

theorem retryScript_eq (policy : RetryPolicy) (passing : ε → Bool) (script : Nat → Except ε α) :
    let last := lastAttempt passing script 0 (policy.maxAttempts - 1)
    retryScript policy passing script =
      (settled passing (policy.maxAttempts - 1 + 1) (script last),
        (List.range (last + 1)).map fun k => ((List.range k).map policy.delay).sum) := by
  have hfollows : Follows script RetryTrace.attempt RetryTrace.sleep id RetryTrace.note
      (fun k (t : RetryTrace ε α) => t.script = script ∧ t.calls.length = k) := {
    attempt_eq := by rintro k t ⟨rfl, rfl⟩; rfl
    sleep_eq := fun ms t => rfl
    after_attempt := by rintro k t ⟨rfl, rfl⟩; exact ⟨rfl, rfl⟩
    after_sleep := by rintro k t ms ⟨rfl, rfl⟩; exact ⟨rfl, rfl⟩ }
  intro last
  have hrun := hfollows.run_retry policy passing (s := ⟨script, 0, []⟩) ⟨rfl, rfl⟩
  have hcalls := RetryTrace.calls_foldl_note (⟨script, 0, []⟩ : RetryTrace ε α) policy.delay
    (Nat.zero_le last)
  simp only [retryScript, StateT.run, hrun, id_eq, last, hcalls, List.reverse_nil, List.nil_append,
    Nat.sub_zero, Nat.zero_add, List.range_eq_range']

/-! ## Counting in 32 bits -/

/-- The number after this one, if it has 32 bits. -/
def next? (n : UInt32) : Option UInt32 := if n.toNat + 1 < UInt32.size then some (n + 1) else none

theorem next?_eq_some {n m : UInt32} : next? n = some m ↔ m.toNat = n.toNat + 1 := by
  simp only [next?, Option.ite_none_right_eq_some, Option.some.injEq, ← UInt32.toNat_inj,
    UInt32.toNat_add, UInt32.reduceToNat]
  have := m.toNat_lt
  unfold UInt32.size
  omega

theorem exists_next? {n bound : UInt32} (h : n < bound) : ∃ m, next? n = some m := by
  have hlt : n.toNat < bound.toNat := h
  have hbound : bound.toNat < UInt32.size := bound.toNat_lt
  exact ⟨n + 1, if_pos (by omega)⟩

/-- **The loop as it counts**: after `made` attempts it does `deeds` and ends with the outcome. The
count goes up before it is compared with the bound, the wait is that after the attempt before, and
where one succeeds that is not the first, its number is told. There is no rule for a count that has
more than 32 bits, or is negative. -/
inductive Loops (bound : UInt32) (wait : Nat → Nat) (passing : ε → Bool)
    (script : Nat → Except ε α) : UInt32 → List RetryDeed → Except (RetryFault ε) α → Prop where
  | success {made a} : script made.toNat = .ok a → (0 < made → ∃ next, next? made = some next) →
      Loops bound wait passing script made [.attempt] (.ok a)
  | aborted {made e} : script made.toNat = .error e → passing e = false →
      Loops bound wait passing script made [.attempt] (.error (.aborted e))
  | exhausted {made next e} : script made.toNat = .error e → passing e = true →
      next? made = some next → bound ≤ next →
      Loops bound wait passing script made [.attempt] (.error (.exhausted next.toNat e))
  | again {made next previous e deeds outcome} : script made.toNat = .error e → passing e = true →
      next? made = some next → next < bound → next? previous = some next →
      Loops bound wait passing script next deeds outcome →
      Loops bound wait passing script made (.attempt :: .sleep (wait previous.toNat) :: deeds)
        outcome

namespace Loops

variable {bound made next : UInt32} {deeds deeds' : List RetryDeed}
  {outcome outcome' : Except (RetryFault ε) α}

/-- An attempt that settles the matter ends the loop. -/
theorem of_not_isPassing (hpass : isPassing passing (script made.toNat) = false)
    (hnext : next? made = some next) (m : Nat) :
    Loops bound wait passing script made [.attempt] (settled passing m (script made.toNat)) := by
  cases houtcome : script made.toNat with
  | ok a => exact .success houtcome fun _ => ⟨next, hnext⟩
  | error e =>
    have hfalse : passing e = false := by rwa [houtcome] at hpass
    rw [settled_of_not_passing hfalse]
    exact .aborted houtcome hfalse

/-- **The loop ends** below its bound, and counts no further than that. -/
theorem of_lt {left : Nat} (h : made.toNat + left + 1 = bound.toNat) :
    Loops bound wait passing script made
      (retryDeeds wait made.toNat (lastAttempt passing script made.toNat left))
      (settled passing bound.toNat (script (lastAttempt passing script made.toNat left))) := by
  induction left generalizing made with
  | zero =>
    have hlt : made < bound := UInt32.lt_iff_toNat_lt.2 (by omega)
    obtain ⟨next, hnext⟩ := exists_next? hlt
    -- the next count is the bound, so it exhausts the attempts
    have hbound : next = bound := UInt32.toNat_inj.1 ((next?_eq_some.1 hnext).trans h)
    rw [lastAttempt_zero, retryDeeds_self]
    cases hpass : isPassing passing (script made.toNat) with
    | false => exact of_not_isPassing hpass hnext _
    | true =>
      obtain ⟨e, houtcome, htrue⟩ := isPassing_eq_true.1 hpass
      rw [houtcome, settled_of_passing htrue, ← hbound]
      exact .exhausted houtcome htrue hnext (UInt32.le_refl _)
  | succ left ih =>
    have hlt : made < bound := UInt32.lt_iff_toNat_lt.2 (by omega)
    obtain ⟨next, hnext⟩ := exists_next? hlt
    have hcount : next.toNat = made.toNat + 1 := next?_eq_some.1 hnext
    cases hpass : isPassing passing (script made.toNat) with
    | false =>
      rw [lastAttempt_of_not_isPassing hpass, retryDeeds_self]
      exact of_not_isPassing hpass hnext _
    | true =>
      obtain ⟨e, houtcome, htrue⟩ := isPassing_eq_true.1 hpass
      have hlast : made.toNat < lastAttempt passing script (made.toNat + 1) left :=
        (lastAttempt_spec (made.toNat + 1) left).1
      have hnextBound : next.toNat + left + 1 = bound.toNat := by omega
      have hrest := ih hnextBound
      rw [hcount] at hrest
      rw [lastAttempt_of_isPassing hpass, retryDeeds_of_lt hlast]
      exact .again houtcome htrue hnext (UInt32.lt_iff_toNat_lt.2 (by omega)) hnext hrest

/-- The loop does not end in two ways. -/
theorem unique (h : Loops bound wait passing script made deeds outcome)
    (h' : Loops bound wait passing script made deeds' outcome') :
    deeds = deeds' ∧ outcome = outcome' := by
  -- the outcome of the attempt tells the rules apart, and the bound those for a passing cause
  induction h generalizing deeds' outcome' with
  | success houtcome _ => cases h' <;> simp_all
  | aborted houtcome hfalse => cases h' <;> simp_all
  | exhausted houtcome htrue hnext hbound =>
    cases h' with
    | again _ _ hnext' hlt =>
      obtain rfl := Option.some.inj (hnext.symm.trans hnext')
      exact absurd hlt (UInt32.not_lt.2 hbound)
    | _ => simp_all
  | again houtcome htrue hnext hlt hprevious _ ih =>
    cases h' with
    | exhausted _ _ hnext' hbound =>
      obtain rfl := Option.some.inj (hnext.symm.trans hnext')
      exact absurd hlt (UInt32.not_lt.2 hbound)
    | again _ _ hnext' _ hprevious' hrest' =>
      obtain rfl := Option.some.inj (hnext.symm.trans hnext')
      obtain ⟨rfl, rfl⟩ := ih hrest'
      have hsame := (next?_eq_some.1 hprevious).symm.trans (next?_eq_some.1 hprevious')
      exact ⟨by rw [Nat.add_right_cancel hsame], rfl⟩
    | _ => simp_all

end Loops

/-! ## Attempts and waits -/

/-- **A run of at most `m` attempts**: `last` is the first attempt that settles the matter, or the
last one allowed if there is none; there are waits between the attempts and nowhere else, and the
outcome is that of the last attempt. -/
structure IsRun (passing : ε → Bool) (script : Nat → Except ε α) (wait : Nat → Nat) (m last : Nat)
    (deeds : List RetryDeed) (outcome : Except (RetryFault ε) α) : Prop where
  last_lt : last < m
  isPassing_of_lt : ∀ i < last, isPassing passing (script i) = true
  settles : last + 1 < m → isPassing passing (script last) = false
  deeds_eq : deeds = .attempt :: (List.range last).flatMap fun k => [.sleep (wait k), .attempt]
  count_attempt : deeds.count .attempt = last + 1
  ok_iff : ∀ a, outcome = .ok a ↔ script last = .ok a
  aborted_iff : ∀ e, outcome = .error (.aborted e) ↔ script last = .error e ∧ passing e = false
  exhausted_iff : ∀ attempts e, outcome = .error (.exhausted attempts e) ↔
    attempts = m ∧ last + 1 = m ∧ script last = .error e ∧ passing e = true

theorem isRun_lastAttempt (m : Nat) :
    IsRun passing script wait (m + 1) (lastAttempt passing script 0 m)
      (retryDeeds wait 0 (lastAttempt passing script 0 m))
      (settled passing (m + 1) (script (lastAttempt passing script 0 m))) := by
  generalize hattempt : lastAttempt passing script 0 m = last
  obtain ⟨-, hle, hbefore, hlast⟩ := hattempt ▸ lastAttempt_spec 0 m
  rw [Nat.zero_add] at hle hlast
  constructor
  case last_lt => omega
  case isPassing_of_lt => exact fun i => hbefore i (Nat.zero_le i)
  case settles => exact fun h => hlast (by omega)
  case deeds_eq => rw [retryDeeds, List.range_eq_range', Nat.sub_zero]
  case count_attempt => rw [count_attempt_retryDeeds, Nat.sub_zero]
  case ok_iff => exact fun a => settled_eq_ok
  case aborted_iff => exact fun e => settled_eq_aborted
  case exhausted_iff =>
    intro attempts e
    rw [settled_eq_exhausted]
    refine ⟨fun ⟨hattempts, houtcome, htrue⟩ => ⟨hattempts, ?_, houtcome, htrue⟩,
      fun ⟨hattempts, _, houtcome, htrue⟩ => ⟨hattempts, houtcome, htrue⟩⟩
    -- an attempt that may be followed by another does not fail for a passing cause
    by_contra hne
    have hfalse := hlast (by omega)
    rw [isPassing_eq_true.2 ⟨e, houtcome, htrue⟩] at hfalse
    contradiction

/-- **Exactly the attempts and the waits that are promised**, for delays that double from `n`
milliseconds up to `limit` nanoseconds. There is a run (`IsRun`) with these waits, and it is the one
that is written down, the only way in which the counting loop ends, and the one that takes its
times. A policy has its limit in whole milliseconds, so a begun one counts as whole there. -/
theorem retry_attempts_and_waits {n limit : Nat} (hn : n < 2 ^ 53)
    (hlimit : limit ≤ (UInt64.size - 1) * nanosPerMilli) (maxAttempts : UInt32)
    (passing : ε → Bool) (script : Nat → Except ε α) :
    let policy : RetryPolicy := ⟨maxAttempts.toNat, 1000 * n, wholeMillis limit, .ofNat 2⟩
    let wait := fun k => min (n * 2 ^ k * nanosPerMilli) limit
    ∃ last deeds outcome,
      IsRun passing script wait (max maxAttempts.toNat 1) last deeds outcome ∧
      retryLog policy limit passing script = (outcome, deeds) ∧
      (∀ deeds' outcome', Loops (max maxAttempts 1) wait passing script 0 deeds' outcome' ↔
        deeds' = deeds ∧ outcome' = outcome) ∧
      retryScript policy passing script = (outcome, (List.range (last + 1)).map fun k =>
        ((List.range k).map fun i => min (n * 2 ^ i) (wholeMillis limit)).sum) := by
  intro policy wait
  have hmillis : wholeMillis limit < UInt64.size := wholeMillis_lt hlimit
  have hinitial : policy.initialMicros / 1000 = n := Nat.mul_div_cancel_left n (by decide)
  have hdelay : policy.delay = fun k => min (n * 2 ^ k) (wholeMillis limit) := by
    funext k
    rw [RetryPolicy.delay_eq rfl (by rwa [hinitial]) hmillis, hinitial]
  have hwait : (fun k => cappedNanos limit (policy.delay k)) = wait := by
    funext k
    rw [hdelay, cappedNanos_min, cappedNanos]
  -- no attempt at all is asked for as one
  have hbound : (max maxAttempts 1).toNat = maxAttempts.toNat - 1 + 1 := by
    rw [UInt32.toNat_max, UInt32.toNat_one]
    omega
  have hrun : IsRun passing script wait _ _ _ _ := isRun_lastAttempt (maxAttempts.toNat - 1)
  have hlog := retryLog_eq policy limit passing script
  have hscript := retryScript_eq policy passing script
  have hstart : (0 : UInt32).toNat + (maxAttempts.toNat - 1) + 1 = (max maxAttempts 1).toNat := by
    rw [hbound, UInt32.toNat_zero, Nat.zero_add]
  have hloops : Loops (max maxAttempts 1) wait passing script 0 _ _ := .of_lt hstart
  rw [hwait] at hlog
  rw [hdelay] at hscript
  rw [hbound] at hloops
  rw [show max maxAttempts.toNat 1 = maxAttempts.toNat - 1 + 1 by omega]
  refine ⟨_, _, _, hrun, hlog, fun deeds' outcome' => ⟨fun h => h.unique hloops, ?_⟩, hscript⟩
  rintro ⟨rfl, rfl⟩
  exact hloops

/-- Three attempts, all of which fail for passing causes. -/
theorem retry_attempts_and_waits_conflicts :
    (10 : Nat) < 2 ^ 53 ∧ 15500000 ≤ (UInt64.size - 1) * nanosPerMilli ∧
    retryLog ⟨3, 10000, 16, .ofNat 2⟩ 15500000 (fun _ => true)
        (fun k => (.error k : Except Nat Unit)) =
      (.error (.exhausted 3 2),
        [.attempt, .sleep 10000000, .attempt, .sleep 15500000, .attempt]) := by
  have hn : (10 : Nat) < 2 ^ 53 := by decide
  have hlimit : 15500000 ≤ (UInt64.size - 1) * nanosPerMilli := by decide
  refine ⟨hn, hlimit, ?_⟩
  obtain ⟨last, deeds, outcome, hrun, hlog, -, -⟩ :=
    retry_attempts_and_waits hn hlimit 3 (fun _ => true) (fun k => (.error k : Except Nat Unit))
  -- all outcomes are passing, so no attempt settles the matter
  have hlast : last = 2 := by
    have hlt := hrun.last_lt
    have hsettles := hrun.settles
    simp [isPassing] at hlt hsettles
    omega
  subst hlast
  refine hlog.trans (Prod.ext ((hrun.exhausted_iff 3 2).2 ⟨rfl, rfl, rfl, rfl⟩) ?_)
  rw [hrun.deeds_eq]
  rfl

end FiscalGateway
