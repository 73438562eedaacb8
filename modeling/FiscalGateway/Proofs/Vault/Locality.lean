import FiscalGateway.Proofs.Vault.Alone
import FiscalGateway.Proofs.Vault.Course

/-!
# Locality — an operation changes its own records, as a whole or not at all

A request that is served alone does all that it is for, or nothing (`AllOrNothing`). Since a request
is served at one moment or not at all, it does so in every course of events (`atomic_local`), and a
request that ends because there are no more random octets has written nothing either
(`runDrawing_call`).
-/

namespace FiscalGateway.Vault

variable {α : Type}

/-! ## Any course of events -/

/-- A request in any course of events does all or nothing. -/
theorem allOrNothing_runOn (v : Vault) (r : Request) (s : Course) :
    AllOrNothing v (s.drawn ((r.call v).runOn s).2) s.records ((r.call v).runOn s).2.records
      ((r.call v).runOn s).1 r := by
  rcases runOn_call v r s with ⟨hrecords, f, -, hreply⟩ | ⟨noise, hnoise, hserve⟩
  · rw [hrecords, hreply]
    exact .of_error
  · have halone := allOrNothing_serveAlone v s.records r hnoise
    rwa [hserve] at halone

/-- Runs an operation in a course of events in which so many draws succeed. The one after them fails
and ends the operation, without an outcome of its own. -/
def Call.runDrawing : Nat → Call α → Course → Option α × Course
  | _, .done a, s => (some a, s)
  | 0, .ask .draw _, s => (none, s)
  | n + 1, .ask .draw next, s =>
    Call.runDrawing n (next (Effect.draw.meet s).1) (Effect.draw.meet s).2
  | n, .ask (.transact t) next, s =>
    Call.runDrawing n (next ((Effect.transact t).meet s).1) ((Effect.transact t).meet s).2
  | n, .ask (.sleep ms) next, s =>
    Call.runDrawing n (next ((Effect.sleep ms).meet s).1) ((Effect.sleep ms).meet s).2

/-- **What is written is written last**, so an operation that a failed draw ends has written
nothing. One that draws no more than there is ends as always. -/
theorem Atomic.runDrawing {commits : Option Noise → Table Record → α → Table Record → Prop}
    {idle : Option Noise → α → Prop} {drawn : Option Noise} {out : String → α} {c : Call α}
    (h : Atomic commits idle drawn c) (hends : EndsWith out c) (n : Nat) (s : Course) :
    c.runDrawing n s = (some (c.runOn s).1, (c.runOn s).2) ∨
      (c.runDrawing n s).1 = none ∧ (c.runDrawing n s).2.records = s.records := by
  induction c generalizing drawn n s with
  | done a => exact .inl rfl
  | ask e next ih =>
    cases e with
    | transact t =>
      rw [Call.runDrawing, runOn_ask]
      by_cases hreach : s.next.store.available = true
      · have hmeet : (Effect.transact t).meet s = ((s.next.store.answer t).1,
            ⟨{ s.next with store := (s.next.store.answer t).2 }, s.weather.tail⟩) := by
          simp only [Effect.meet, Effect.perform, Store.run, if_pos hreach]
        rw [hmeet]
        dsimp only
        rcases h s.next.store with ⟨hrecords, hnext⟩ | ⟨a, ha, -⟩
        · exact (ih _ hnext (hends.2 _) n _).imp_right fun hunwritten =>
            ⟨hunwritten.1, hunwritten.2.trans hrecords⟩
        · rw [ha]
          exact .inl rfl
      · have hmeet : (Effect.transact t).meet s =
            (.error (.backend "connection refused"), ⟨s.next, s.weather.tail⟩) := by
          simp only [Effect.meet, Effect.perform, Store.run, if_neg hreach]
        rw [hmeet]
        dsimp only
        rw [hends.1]
        exact .inl rfl
    | sleep ms =>
      rw [Call.runDrawing, runOn_ask]
      exact ih () h hends n _
    | draw =>
      cases n with
      | zero => exact .inr ⟨rfl, rfl⟩
      | succ n =>
        rw [Call.runDrawing, runOn_ask]
        exact ih _ (h _) (hends _) n _

/-- A request for which there are not enough random octets writes nothing. -/
theorem runDrawing_call (v : Vault) (r : Request) (n : Nat) (s : Course) :
    (r.call v).runDrawing n s = (some ((r.call v).runOn s).1, ((r.call v).runOn s).2) ∨
      ((r.call v).runDrawing n s).1 = none ∧
        ((r.call v).runDrawing n s).2.records = s.records :=
  (takesEffectOnce_call v r).runDrawing (EndsWith.call v r) n s

/-- **Operations are atomic and local.** Whatever the store holds, however many conflicts are
planned, and whenever it is out of reach: a request that fails leaves all records as they are, also
where it fails because there are no more random octets; one that succeeds changes what it is for and
nothing else; and no record changes under a key of which the request does not name the
identifier. -/
theorem atomic_local (v : Vault) (s : Course) :
    (∀ r : Request,
      let ended := (r.call v).runOn s
      (∀ f, ended.1 = .error f → ended.2.records = s.records) ∧
        (∀ n, (r.call v).runDrawing n s = (some ended.1, ended.2) ∨
          ((r.call v).runDrawing n s).1 = none ∧
            ((r.call v).runDrawing n s).2.records = s.records) ∧
        (∀ reply, ended.1 = .ok reply →
          r.Changes v (s.drawn ended.2) s.records ended.2.records) ∧
        ∀ key, (∀ id ∈ r.identifiers, key ≠ v.recordKey id) →
          ended.2.records.get? key = s.records.get? key) ∧
      (ping.runOn s).2.records = s.records := by
  refine ⟨fun r => ?_, records_runOn_ping s⟩
  have hended := allOrNothing_runOn v r s
  exact ⟨hended.error, fun n => runDrawing_call v r n s, hended.ok, fun key => hended.get?_eq⟩

/-! ### Two renamings -/

/-- A world with a record that nothing opens, and one of somebody else. -/
def specimenShared : World :=
  ⟨⟨(Table.empty.put "other" .empty).put "eet:a" (Table.empty.put "salt" [7]), 0, true⟩, 0,
    fun _ => specimenNoise, 0⟩

/-- A conflict is planned before the first step; the store is in reach at the third one or not. -/
def specimenCourse (available : Bool) : Course :=
  ⟨specimenShared, .cons ⟨some 1, none⟩ (.cons .calm (.cons ⟨none, some available⟩ (.const .calm)))⟩

/-- After a conflict the record is moved and nothing else is done, or an outage ends the operation
and nothing is done at all. -/
theorem atomic_local_specimen :
    let vault : Vault := ⟨.standard, .standard, "eet:"⟩
    let r : Request := .updateId "a" "b"
    let ended := (r.call vault).runOn (specimenCourse true)
    let interrupted := (r.call vault).runOn (specimenCourse false)
    ended.1 = .ok .done ∧
      r.Changes vault ((specimenCourse true).drawn ended.2) specimenShared.store.records
        ended.2.records ∧
      ended.2.records.get? "other" = some .empty ∧
      interrupted.1 = .error (.unavailable "connection refused") ∧
      interrupted.2.records = specimenShared.store.records := by
  intro vault r ended interrupted
  have hended : ended.1 = .ok .done := by decide +kernel
  have hinterrupted : interrupted.1 = .error (.unavailable "connection refused") := by
    decide +kernel
  have hother : ∀ id ∈ r.identifiers, "other" ≠ vault.recordKey id := by decide +kernel
  obtain ⟨-, -, hchanges, hothers⟩ := (atomic_local vault (specimenCourse true)).1 r
  obtain ⟨herror, -⟩ := (atomic_local vault (specimenCourse false)).1 r
  exact ⟨hended, hchanges _ hended, hothers "other" hother, hinterrupted, herror _ hinterrupted⟩

end FiscalGateway.Vault
