import FiscalGateway.Proofs.Vault.Refinement
import FiscalGateway.Proofs.Vault.Atomic
import Mathlib.Logic.Function.Basic

/-!
# Isolation — vaults that share a store do not notice each other

The keys of a vault begin with the text of its space, and so does every key that its operations name
(`StaysIn.operation`). Of a store that several vaults share, each sees the records in its own space
(`Store.within`): a transaction that stays in a space is answered from that part alone and changes
nothing outside it (`Store.run_within`, `Store.exists_records_run`).

Tenants of one `House` run their operations in turns, one step at a time and in any order. By
induction on the turns, each tenant is at every moment where it would be after as many turns on its
own part of the store (`House.after_within`), so its replies are those that it would get alone
(`isolated`).
-/

namespace FiscalGateway

/-! ## Parts of a table -/

namespace Table

variable {α : Type} {p : String → Bool} {key : String}

/-- The entries under names of a sort. -/
def restrict (t : Table α) (p : String → Bool) : Table α :=
  ⟨t.entries.filter fun e => p e.1, t.sorted.filter _⟩

theorem lookup_filter_key (p : String → Bool) (key : String) (l : List (String × α)) :
    (l.filter fun e => p e.1).lookup key = if p key then l.lookup key else none := by
  induction l with
  | nil => simp
  | cons x l ih =>
    obtain ⟨k, a⟩ := x
    by_cases hk : p k = true
    · rw [List.filter_cons_of_pos (by simpa using hk), lookup_cons_if, lookup_cons_if, ih]
      by_cases he : key = k
      · simp [he, hk]
      · simp [he]
    · rw [List.filter_cons_of_neg (by simpa using hk), lookup_cons_if, ih]
      by_cases he : key = k
      · simp [he, hk]
      · simp [he]

@[simp] theorem get?_restrict (t : Table α) (p : String → Bool) (key : String) :
    (t.restrict p).get? key = if p key then t.get? key else none :=
  lookup_filter_key p key t.entries

theorem contains_restrict (t : Table α) (h : p key = true) :
    (t.restrict p).contains key = t.contains key := by
  rw [contains, contains, get?_restrict, if_pos h]

theorem keys_restrict (t : Table α) (p : String → Bool) : (t.restrict p).keys = t.keys.filter p := by
  rw [keys, keys, List.filter_map]
  rfl

theorem restrict_put (t : Table α) (a : α) (h : p key = true) :
    (t.put key a).restrict p = (t.restrict p).put key a := by
  refine ext_get? fun k => ?_
  simp only [get?_restrict, get?_put]
  by_cases hk : k = key
  · simp [hk, h]
  · simp [hk]

theorem restrict_put_of_not (t : Table α) (a : α) (h : p key = false) :
    (t.put key a).restrict p = t.restrict p := by
  refine ext_get? fun k => ?_
  simp only [get?_restrict, get?_put]
  by_cases hk : k = key
  · simp [hk, h]
  · simp [hk]

theorem restrict_erase (t : Table α) (p : String → Bool) (key : String) :
    (t.erase key).restrict p = (t.restrict p).erase key := by
  refine ext_get? fun k => ?_
  simp only [get?_restrict, get?_erase]
  by_cases hk : k = key <;> simp [hk]

theorem restrict_erase_of_not (t : Table α) (h : p key = false) :
    (t.erase key).restrict p = t.restrict p := by
  refine ext_get? fun k => ?_
  simp only [get?_restrict, get?_erase]
  by_cases hk : k = key
  · simp [hk, h]
  · simp [hk]

end Table

namespace Vault

variable {α β : Type} {space space' key : String}

/-! ## Parts of a store -/

/-- **Spaces apart**: no key begins with both texts. -/
theorem beginsWith_eq_false_of_apart (hapart : beginsWith space space' = false)
    (hapart' : beginsWith space' space = false) (h : beginsWith space key = true) :
    beginsWith space' key = false := by
  refine eq_false_of_ne_true fun h' => ?_
  -- of two texts that a key begins with, the shorter one begins the longer one
  rcases List.prefix_or_prefix_of_prefix (List.isPrefixOf_iff_prefix.1 h)
    (List.isPrefixOf_iff_prefix.1 h') with hprefix | hprefix
  · rw [beginsWith, List.isPrefixOf_iff_prefix.2 hprefix] at hapart
    contradiction
  · rw [beginsWith, List.isPrefixOf_iff_prefix.2 hprefix] at hapart'
    contradiction

/-- The part of a store that lies in a space. -/
def Store.within (s : Store) (space : String) : Store :=
  { s with records := s.records.restrict (beginsWith space) }

/-- **A transaction that stays in a space**: it names keys of the space, and scans no others. -/
def Transaction.StaysIn (space : String) : Transaction α → Prop
  | .insert key _ | .read key | .delete key | .update key _ => beginsWith space key = true
  | .rename source target => beginsWith space source = true ∧ beginsWith space target = true
  | .scan start => start = space
  | .ping => True

namespace Store

variable (s : Store)

theorem record_within (h : beginsWith space key = true) :
    (s.within space).record key = s.record key := by
  rw [record, record, within, Table.get?_restrict, if_pos h]

theorem commit_within (a : α) (records : Table Record) :
    (s.within space).commit a (records.restrict (beginsWith space)) =
      ((s.commit a records).1, (s.commit a records).2.within space) := by
  unfold commit
  have hpending : (s.within space).pendingConflicts = s.pendingConflicts := rfl
  rw [hpending]
  split <;> rfl

/-- **What stays in a space is answered from it.** -/
theorem answer_within {t : Transaction α} (h : t.StaysIn space) :
    (s.within space).answer t = ((s.answer t).1, (s.answer t).2.within space) := by
  have hrecords : (s.within space).records = s.records.restrict (beginsWith space) := rfl
  cases t with
  | insert key fields =>
    simp only [answer, insert, hrecords, Table.contains_restrict _ h]
    split
    · rfl
    · rw [← Table.restrict_put _ _ h, s.commit_within]
  | read key =>
    simp only [answer, s.record_within h]
  | rename source target =>
    simp only [answer, rename, hrecords, Table.get?_restrict, if_pos h.1,
      Table.contains_restrict _ h.2]
    cases s.records.get? source with
    | none => rfl
    | some r =>
      dsimp only
      split
      · rfl
      · rw [← Table.restrict_erase, ← Table.restrict_put _ _ h.2, s.commit_within]
  | delete key =>
    simp only [answer, delete, hrecords, Table.contains_restrict _ h, ← Table.restrict_erase]
    rfl
  | scan start =>
    obtain rfl : start = space := h
    simp only [answer, hrecords, Table.keys_restrict, List.filter_filter, Bool.and_self]
  | update key change =>
    simp only [answer, update, s.record_within h]
    cases change (s.record key) with
    | error e => rfl
    | ok fields =>
      dsimp only
      rw [hrecords, ← Table.restrict_put _ _ h, s.commit_within]
  | ping => rfl

/-- What stays in a space is done in it, whether the store is in reach or not. -/
theorem run_within {t : Transaction α} (h : t.StaysIn space) :
    (s.within space).run t = ((s.run t).1, (s.run t).2.within space) := by
  have havailable : (s.within space).available = s.available := rfl
  unfold run
  rw [havailable, s.answer_within h]
  split <;> rfl

variable {s}

theorem commit_of_calm (hcalm : s.pendingConflicts = 0) (a : α) (records : Table Record) :
    s.commit a records = (.ok a, { s with records := records }) := by
  unfold commit
  rw [hcalm]

/-- **What stays in a space changes records of that space only**, where no conflict is planned. -/
theorem exists_records_run {t : Transaction α} (h : t.StaysIn space)
    (hcalm : s.pendingConflicts = 0) :
    ∃ records : Table Record, (s.run t).2 = { s with records := records } ∧
      ∀ space', (∀ key, beginsWith space key = true → beginsWith space' key = false) →
        records.restrict (beginsWith space') = s.records.restrict (beginsWith space') := by
  -- what does not write keeps every space
  have hkeep : ∃ records : Table Record, s = { s with records := records } ∧
      ∀ space', (∀ key, beginsWith space key = true → beginsWith space' key = false) →
        records.restrict (beginsWith space') = s.records.restrict (beginsWith space') :=
    ⟨s.records, rfl, fun _ _ => rfl⟩
  unfold run
  split
  · cases t with
    | insert key fields =>
      simp only [answer, insert]
      split
      · exact hkeep
      · rw [commit_of_calm hcalm]
        exact ⟨_, rfl, fun _ hapart => Table.restrict_put_of_not _ _ (hapart key h)⟩
    | read key => exact hkeep
    | rename source target =>
      simp only [answer, rename]
      cases s.records.get? source with
      | none => exact hkeep
      | some r =>
        dsimp only
        split
        · exact hkeep
        · rw [commit_of_calm hcalm]
          refine ⟨_, rfl, fun _ hapart => ?_⟩
          -- both keys lie in the space of the transaction, so in no other one
          rw [Table.restrict_put_of_not _ _ (hapart target h.2),
            Table.restrict_erase_of_not _ (hapart source h.1)]
    | delete key =>
      exact ⟨_, rfl, fun _ hapart => Table.restrict_erase_of_not _ (hapart key h)⟩
    | scan start => exact hkeep
    | update key change =>
      simp only [answer, update]
      cases change (s.record key) with
      | error e => exact hkeep
      | ok fields =>
        dsimp only
        rw [commit_of_calm hcalm]
        exact ⟨_, rfl, fun _ hapart => Table.restrict_put_of_not _ _ (hapart key h)⟩
    | ping => exact hkeep
  · exact hkeep

end Store

/-! ## Operations stay in their space -/

/-- **A call that stays in a space**, whatever it is answered. -/
def StaysIn (space : String) : Call α → Prop
  | .done _ => True
  | .ask (.transact t) next => t.StaysIn space ∧ ∀ answer, StaysIn space (next answer)
  | .ask (.sleep _) next => StaysIn space (next ())
  | .ask .draw next => ∀ noise, StaysIn space (next noise)

/-- What can be asked of a vault, the question whether its store is in reach among it. -/
inductive Operation where
  | request (r : Request)
  | ping

/-- The call that an operation makes. -/
def Operation.call (v : Vault) : Operation → Call (Except Fault Reply)
  | .request r => r.call v
  | .ping => andThen Vault.ping fun _ => .ok .done

/-- One operation after the other, and the replies to them. -/
def session (v : Vault) : List Operation → Call (List (Except Fault Reply))
  | [] => .done []
  | o :: os => do
    let reply ← o.call v
    let replies ← v.session os
    return reply :: replies

namespace StaysIn

theorem bind {c : Call α} {f : α → Call β} (h : StaysIn space c)
    (hf : ∀ a, StaysIn space (f a)) : StaysIn space (c >>= f) := by
  induction c with
  | done a => exact hf a
  | ask e next ih =>
    cases e with
    | transact t => exact ⟨h.1, fun answer => ih answer (h.2 answer)⟩
    | sleep ms => exact ih () h
    | draw => exact fun noise => ih noise (h noise)

theorem transact {t : Transaction α} (h : t.StaysIn space) : StaysIn space (transact t) :=
  ⟨h, fun _ => trivial⟩

theorem andThen {c : Call (Except Fault α)} (h : StaysIn space c) (f : α → Except Fault β) :
    StaysIn space (andThen c f) :=
  h.bind fun _ => trivial

theorem retryFrom {attempt : Call (Except Fault α)} (h : StaysIn space attempt)
    (policy : RetryPolicy) (left k : Nat) :
    StaysIn space (retryFrom policy isConflict attempt
      (fun ms => Program.request (.sleep ms)) k left) := by
  induction left generalizing k with
  | zero =>
    refine h.bind fun a => ?_
    cases a <;> trivial
  | succ left ih =>
    refine h.bind fun a => ?_
    cases a with
    | ok a => trivial
    | error e =>
      dsimp only
      split
      · exact ih (k + 1)
      · trivial

theorem persist {attempt : Call (Except Fault α)} (h : StaysIn space attempt) (v : Vault) :
    StaysIn space (v.persist attempt) :=
  (h.retryFrom v.policy _ 0).bind fun _ => trivial

/-- Every request names keys of its vault only. -/
theorem call (v : Vault) (r : Request) : StaysIn v.space (r.call v) := by
  have hkey := beginsWith_recordKey v
  cases r with
  | store id password pair =>
    have hdraw : StaysIn v.space (v.store id password pair) := fun noise =>
      ((transact (t := .insert (v.recordKey id) (v.sealing.sealPair password noise pair))
        (hkey id)).persist v).andThen _
    exact hdraw.andThen _
  | get id password =>
    exact ((transact (t := .read (v.recordKey id)) (hkey id)).andThen _).andThen _
  | list offset limit => exact ((transact (t := .scan v.space) rfl).andThen _).andThen _
  | updateId oldId newId =>
    exact (((transact (t := .rename (v.recordKey oldId) (v.recordKey newId))
      ⟨hkey oldId, hkey newId⟩).persist v).andThen _).andThen _
  | updatePassword id oldPassword newPassword =>
    have hattempt : StaysIn v.space (Program.request .draw >>= fun noise =>
        Vault.andThen (Vault.transact (.update (v.recordKey id)
          (v.resealed id oldPassword newPassword noise))) fun done => done) := fun noise =>
      (transact (t := .update (v.recordKey id) (v.resealed id oldPassword newPassword noise))
        (hkey id)).andThen _
    exact (hattempt.persist v).andThen _
  | delete id =>
    exact ((transact (t := .delete (v.recordKey id)) (hkey id)).andThen _).andThen _

/-- **Every operation stays in the space of its vault.** -/
theorem operation (v : Vault) (o : Operation) : StaysIn v.space (o.call v) := by
  cases o with
  | request r => exact call v r
  | ping => exact (transact (t := .ping) trivial).andThen _

theorem session (v : Vault) (os : List Operation) : StaysIn v.space (v.session os) := by
  induction os with
  | nil => trivial
  | cons o os ih => exact (operation v o).bind fun reply => ih.bind fun replies => trivial

end StaysIn

/-! ## Turns -/

/-- Who uses a vault: what there is left to do, and a clock and random octets of its own. -/
structure Tenant (α : Type) where
  rest : Call α
  clock : Nat
  noise : Nat → Noise
  drawn : Nat

namespace Tenant

/-- What surrounds a tenant of a store. -/
def inside (t : Tenant α) (s : Store) : World := ⟨s, t.clock, t.noise, t.drawn⟩

/-- One step of a tenant, if there is something left to do. -/
def turn (t : Tenant α) (s : Store) : Tenant α × Store :=
  match t.rest with
  | .done _ => (t, s)
  | .ask e next =>
    let (b, w) := e.perform (t.inside s)
    (⟨next b, w.clock, w.noise, w.drawn⟩, w.store)

/-- So many turns in a row. -/
def turns (n : Nat) (t : Tenant α) (s : Store) : Tenant α × Store :=
  (fun x : Tenant α × Store => x.1.turn x.2)^[n] (t, s)

/-- The result of a tenant that has nothing left to do. -/
def result? (t : Tenant α) : Option α :=
  match t.rest with
  | .done a => some a
  | .ask _ _ => none

end Tenant

/-- How many steps a call takes alone. -/
def Call.steps : Call α → World → Nat
  | .done _, _ => 0
  | .ask e next, w => Call.steps (next (e.perform w).1) (e.perform w).2 + 1

/-- A turn with something left to do is the first step of what is left. -/
theorem Tenant.run_turn {t : Tenant α} (s : Store) (h : t.result? = none) :
    Call.steps t.rest (t.inside s) =
        Call.steps (t.turn s).1.rest ((t.turn s).1.inside (t.turn s).2) + 1 ∧
      Call.run t.rest (t.inside s) =
        Call.run (t.turn s).1.rest ((t.turn s).1.inside (t.turn s).2) := by
  obtain ⟨c, clock, noise, drawn⟩ := t
  cases c with
  | done a => contradiction
  | ask e next => exact ⟨rfl, rfl⟩

/-- **A tenant that is alone** has the result of its call as soon as it has had enough turns. -/
theorem Tenant.result?_turns (n : Nat) (t : Tenant α) (s : Store) :
    (t.turns n s).1.result? =
      if Call.steps t.rest (t.inside s) ≤ n then some (Call.run t.rest (t.inside s)).1 else none := by
  cases hresult : t.result? with
  | some a =>
    obtain ⟨c, clock, noise, drawn⟩ := t
    cases c with
    | ask e next => contradiction
    | done b =>
      -- who is done takes no turn any more
      have hstill : Tenant.turns n ⟨.done b, clock, noise, drawn⟩ s =
          (⟨.done b, clock, noise, drawn⟩, s) := Function.iterate_fixed rfl n
      rw [hstill]
      exact (if_pos (Nat.zero_le n)).symm
  | none =>
    obtain ⟨hsteps, hrun⟩ := t.run_turn s hresult
    cases n with
    | zero =>
      rw [hsteps, if_neg (Nat.not_succ_le_zero _)]
      exact hresult
    | succ n =>
      -- the first turn is one step of the call, and the others are those of what is left of it
      have hturns : t.turns (n + 1) s = (t.turn s).1.turns n (t.turn s).2 :=
        Function.iterate_succ_apply ..
      rw [hturns, result?_turns n, hsteps, hrun]
      simp only [Nat.add_le_add_iff_right]

/-- **A house**: tenants of one store. -/
structure House (ι α : Type) where
  store : Store
  tenant : ι → Tenant α

namespace House

variable {ι : Type}

/-- **What the turns keep**: no conflict is planned, and each tenant stays in its own space. -/
structure Orderly (spaces : ι → String) (h : House ι α) : Prop where
  pendingConflicts : h.store.pendingConflicts = 0
  staysIn : ∀ i, StaysIn (spaces i) (h.tenant i).rest

/-- Spaces no two of which begin the keys of one record. -/
def Apart (spaces : ι → String) : Prop :=
  ∀ i j, i ≠ j → ∀ key, beginsWith (spaces i) key = true → beginsWith (spaces j) key = false

variable {spaces : ι → String} {h : House ι α}

/-- What a tenant does in a turn, seen from every space. -/
theorem turn_cases (hh : h.Orderly spaces) (hapart : Apart spaces) (i : ι) :
    StaysIn (spaces i) ((h.tenant i).turn h.store).1.rest ∧
      ((h.tenant i).turn h.store).2.pendingConflicts = 0 ∧
      (h.tenant i).turn (h.store.within (spaces i)) =
        (((h.tenant i).turn h.store).1, ((h.tenant i).turn h.store).2.within (spaces i)) ∧
      ∀ j, j ≠ i → ((h.tenant i).turn h.store).2.within (spaces j) = h.store.within (spaces j) := by
  have hstays := hh.staysIn i
  have hcalm := hh.pendingConflicts
  generalize h.tenant i = t at hstays ⊢
  obtain ⟨c, clock, noise, drawn⟩ := t
  cases c with
  | done a => exact ⟨trivial, hcalm, rfl, fun _ _ => rfl⟩
  | ask e next =>
    cases e with
    | transact t =>
      -- only a transaction looks at the store, and this one stays in its space
      have hwithin := h.store.run_within hstays.1
      obtain ⟨records, hrun, hothers⟩ := Store.exists_records_run hstays.1 hcalm
      refine ⟨hstays.2 _, ?_, ?_, fun j hj => ?_⟩
      · simp only [Tenant.turn, Tenant.inside, Effect.perform, hrun, hcalm]
      · simp only [Tenant.turn, Tenant.inside, Effect.perform, hwithin]
      · simp only [Tenant.turn, Tenant.inside, Effect.perform, hrun, Store.within,
          hothers _ (hapart i j hj.symm)]
    | sleep ms => exact ⟨hstays, hcalm, rfl, fun _ _ => rfl⟩
    | draw => exact ⟨hstays _, hcalm, rfl, fun _ _ => rfl⟩

variable [DecidableEq ι]

/-- A turn of one tenant. -/
def turn (h : House ι α) (i : ι) : House ι α :=
  ⟨((h.tenant i).turn h.store).2, Function.update h.tenant i ((h.tenant i).turn h.store).1⟩

/-- Turns in this order. -/
def after (h : House ι α) (turns : List ι) : House ι α := turns.foldl turn h

theorem tenant_turn (h : House ι α) (i j : ι) :
    (h.turn i).tenant j = if j = i then ((h.tenant i).turn h.store).1 else h.tenant j :=
  Function.update_apply h.tenant i _ j

/-- **One turn** keeps the order. -/
theorem Orderly.turn (hh : h.Orderly spaces) (hapart : Apart spaces) (i : ι) :
    (h.turn i).Orderly spaces := by
  obtain ⟨hstays, hcalm, -, -⟩ := turn_cases hh hapart i
  refine ⟨hcalm, fun j => ?_⟩
  rw [tenant_turn]
  split
  · next hj => rwa [hj]
  · exact hh.staysIn j

/-- **Nobody notices the others**: after any turns, a tenant and its part of the store are what they
are after as many turns of the tenant alone. -/
theorem after_within (hh : h.Orderly spaces) (hapart : Apart spaces) (turns : List ι) (i : ι) :
    ((h.after turns).tenant i, (h.after turns).store.within (spaces i)) =
      (h.tenant i).turns (turns.count i) (h.store.within (spaces i)) := by
  induction turns generalizing h with
  | nil => rfl
  | cons j turns ih =>
    obtain ⟨-, -, hown, hothers⟩ := turn_cases hh hapart j
    refine (ih (hh.turn hapart j)).trans ?_
    by_cases hj : j = i
    · subst hj
      rw [List.count_cons_self, Tenant.turns, Tenant.turns, Function.iterate_succ_apply, hown,
        tenant_turn, if_pos rfl]
      rfl
    · have hstore : (h.turn j).store.within (spaces i) = h.store.within (spaces i) :=
        hothers i (Ne.symm hj)
      rw [List.count_cons_of_ne hj, tenant_turn, if_neg (Ne.symm hj), hstore]

end House

/-- Tenants with a session each, in a store that nothing interferes with. -/
def House.open {ι : Type} (vaults : ι → Vault) (operations : ι → List Operation)
    (noise : ι → Nat → Noise) (records : Table Record) : House ι (List (Except Fault Reply)) :=
  ⟨.quiet records, fun i => ⟨(vaults i).session (operations i), 0, noise i, 0⟩⟩

/-- **Vaults are isolated by their spaces.** Vaults share a store, and of no two of them does the
space of one begin with that of the other. However their operations are interleaved, down to single
steps, each session ends after as many steps as it takes alone, with the replies that it gets alone
in a store that has the records of its space and no others. -/
theorem isolated {ι : Type} [DecidableEq ι] (vaults : ι → Vault)
    (hapart : ∀ i j, i ≠ j → beginsWith (vaults i).space (vaults j).space = false)
    (operations : ι → List Operation) (noise : ι → Nat → Noise) (records : Table Record)
    (turns : List ι) (i : ι) :
    let call := (vaults i).session (operations i)
    let alone : World :=
      ⟨.quiet (records.restrict (beginsWith (vaults i).space)), 0, noise i, 0⟩
    (((House.open vaults operations noise records).after turns).tenant i).result? =
      if call.steps alone ≤ turns.count i then some (call.run alone).1 else none := by
  intro call alone
  have hspaces : House.Apart fun i => (vaults i).space := fun i j hij _ =>
    beginsWith_eq_false_of_apart (hapart i j hij) (hapart j i hij.symm)
  have horderly : (House.open vaults operations noise records).Orderly fun i => (vaults i).space :=
    ⟨rfl, fun i => StaysIn.session (vaults i) (operations i)⟩
  have hafter := congrArg Prod.fst (House.after_within horderly hspaces turns i)
  dsimp only at hafter
  rw [hafter]
  exact Tenant.result?_turns ..

/-! ### Two neighbours -/

/-- Two vaults with different policies. -/
def specimenNeighbours : Fin 2 → Vault
  | 0 => ⟨.standard, .standard, "a:"⟩
  | 1 => ⟨.standard, .withMaxAttempts 1, "b:"⟩

/-- One of them gives a record an identifier that is a key of the other one. -/
def specimenOperations : Fin 2 → List Operation
  | 0 => [.request (.updateId "x" "b:x"), .request (.list 0 5)]
  | 1 => [.request (.delete "x"), .ping, .request (.list 0 5)]

/-- Each of them gets the replies that its own records call for. -/
theorem isolated_neighbours :
    let records := ["a:x", "b:x", "b:y", "c"].foldl (fun t key => t.put key .empty) .empty
    let house := (House.open specimenNeighbours specimenOperations (fun _ _ => specimenNoise)
      records).after [1, 0, 1, 0, 1]
    (house.tenant 0).result? = some [.ok .done, .ok (.ids ["b:x"])] ∧
      (house.tenant 1).result? = some [.ok .done, .ok .done, .ok (.ids ["y"])] := by
  intro records house
  have hapart : ∀ i j, i ≠ j →
      beginsWith (specimenNeighbours i).space (specimenNeighbours j).space = false := by
    decide +kernel
  have halone := isolated specimenNeighbours hapart specimenOperations (fun _ _ => specimenNoise)
    records [1, 0, 1, 0, 1]
  exact ⟨(halone 0).trans (by decide +kernel), (halone 1).trans (by decide +kernel)⟩

end Vault
end FiscalGateway
