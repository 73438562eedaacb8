import FiscalGateway.Proofs.Vault.Atomic
import Mathlib.Logic.Function.Basic

/-!
# Concurrent calls — many callers of one vault

Callers share a store and take turns in any order: each of their transactions is one step, and
between two steps of a call others may do any number of theirs, or a conflict may be planned
(`Step`). A run is any sequence of such steps (`Run`). `Linearizes` says that an order of the calls
explains what a run has come to, and `Tracked.run` that there always is one: calls are ordered
by the moment at which they took effect.
-/

namespace FiscalGateway.Vault

variable {ι : Type}

/-! ## Callers side by side -/

/-- How far a call has come. -/
inductive Phase where
  | waiting
  | running (c : Call (Except Fault Reply))
  | returned (reply : Except Fault Reply)

/-- The outcome of a call, as soon as it has one. -/
def Phase.outcome? : Phase → Option (Except Fault Reply)
  | .running (.done reply) => some reply
  | .returned reply => some reply
  | _ => none

/-- Callers and the store that they share. -/
structure Callers (ι : Type) where
  store : Store
  phase : ι → Phase

/-- What happens among callers. -/
inductive Event (ι : Type) where
  | invoke (i : ι)
  | transact (i : ι)
  | sleep (i : ι)
  | draw (i : ι) (noise : Noise)
  | reply (i : ι)
  /-- So many transactions that write are to meet a conflict. -/
  | inject (conflicts : Nat)

/-- Whose step it is. -/
def Event.caller? : Event ι → Option ι
  | .invoke i | .transact i | .sleep i | .draw i _ | .reply i => some i
  | .inject _ => none

namespace Callers

/-- Before any call. -/
def start (store : Store) : Callers ι := ⟨store, fun _ => .waiting⟩

/-- The outcome of a call, as soon as it has one. -/
def outcome? (s : Callers ι) (i : ι) : Option (Except Fault Reply) := (s.phase i).outcome?

/-- One call goes on. -/
def enter [DecidableEq ι] (s : Callers ι) (i : ι) (p : Phase) : Callers ι :=
  { s with phase := Function.update s.phase i p }

section Enter

variable [DecidableEq ι] (s : Callers ι) (i j : ι) (p : Phase) (store : Store)

theorem phase_enter : (s.enter i p).phase j = if j = i then p else s.phase j :=
  Function.update_apply s.phase i p j

/-- Whatever the store is then, the other calls have the outcomes that they had. -/
theorem outcome?_enter : outcome? { s.enter i p with store := store } j =
    if j = i then p.outcome? else s.outcome? j := by
  have hphase : outcome? { s.enter i p with store := store } j =
      ((s.enter i p).phase j).outcome? := rfl
  rw [hphase, phase_enter, apply_ite Phase.outcome?]
  rfl

end Enter

end Callers

/-- A call that had returned before another one began. -/
def Precedes (history : List (Event ι)) (i j : ι) : Prop :=
  [.reply i, .invoke j].Sublist history

/-! ## Calls in turn -/

/-- A request that is served where nothing interferes: the reply, and the records behind it. -/
def serveAlone (v : Vault) (records : Table Record) (r : Request) (noise : Noise) :
    Except Fault Reply × Table Record :=
  let (reply, w) := v.serve ⟨.quiet records, 0, fun _ => noise, 0⟩ r
  (reply, w.store.records)

theorem Alone.serveAlone_eq {v : Vault} {r : Request} {noise : Noise} {before after : Table Record}
    {reply : Except Fault Reply} (h : Alone (r.call v) noise before reply after) :
    v.serveAlone before r noise = (reply, after) := by
  obtain ⟨hreply, hafter⟩ := h ⟨.quiet before, 0, fun _ => noise, 0⟩ ⟨rfl, rfl⟩ rfl rfl
  exact Prod.ext hreply hafter

/-- **One call at a time**: served alone and in this order, each with its random octets, the calls
get these replies, and lead from these records to those. -/
inductive InTurn (v : Vault) (requests : ι → Request) (reply? : ι → Option (Except Fault Reply)) :
    Table Record → List (ι × Noise) → Table Record → Prop where
  | nil {records : Table Record} : InTurn v requests reply? records [] records
  | cons {before between after : Table Record} {i : ι} {noise : Noise} {reply : Except Fault Reply}
      {order : List (ι × Noise)}
      (hserve : v.serveAlone before (requests i) noise = (reply, between))
      (hreply : reply? i = some reply)
      (hrest : InTurn v requests reply? between order after) :
    InTurn v requests reply? before ((i, noise) :: order) after

namespace InTurn

variable {v : Vault} {requests : ι → Request} {reply? reply?' : ι → Option (Except Fault Reply)}
  {before between after : Table Record} {order : List (ι × Noise)}

/-- Only the replies to the calls themselves matter. -/
theorem congr (h : InTurn v requests reply? before order after)
    (hsame : ∀ x ∈ order, reply?' x.1 = reply? x.1) :
    InTurn v requests reply?' before order after := by
  induction h with
  | nil => exact .nil
  | cons hserve hreply _ ih =>
    rw [List.forall_mem_cons] at hsame
    exact .cons hserve (hsame.1.trans hreply) (ih hsame.2)

/-- One more call at the end. -/
theorem concat (h : InTurn v requests reply? before order between) {i : ι} {noise : Noise}
    {reply : Except Fault Reply}
    (hserve : v.serveAlone between (requests i) noise = (reply, after))
    (hreply : reply? i = some reply) :
    InTurn v requests reply? before (order ++ [(i, noise)]) after := by
  induction h with
  | nil => exact .cons hserve hreply .nil
  | cons hserve' hreply' _ ih => exact .cons hserve' hreply' (ih hserve)

end InTurn

/-- The reply to a call that took effect: one that has ended, and not for want of attempts. -/
def Phase.effect? (p : Phase) : Option (Except Fault Reply) :=
  match p.outcome? with
  | some (.error .maxAttempts) => none
  | outcome => outcome

/-- The reply to a call that took effect. -/
def Callers.effect? (s : Callers ι) (i : ι) : Option (Except Fault Reply) := (s.phase i).effect?

/-- And the effects that they had. -/
theorem Callers.effect?_enter [DecidableEq ι] (s : Callers ι) (i j : ι) (p : Phase)
    (store : Store) : effect? { s.enter i p with store := store } j =
      if j = i then p.effect? else s.effect? j := by
  have hphase : effect? { s.enter i p with store := store } j =
      ((s.enter i p).phase j).effect? := rfl
  rw [hphase, phase_enter, apply_ite Phase.effect?]
  rfl

/-- **An order that explains a run**: each call that took effect stands in it once, with octets that
it drew; none stands behind a call that began only after it had returned; and one at a time in this
order, the calls get the replies that they got, and leave the records that they left. -/
structure Linearizes (v : Vault) (requests : ι → Request) (records : Table Record)
    (history : List (Event ι)) (s : Callers ι) (order : List (ι × Noise)) : Prop where
  nodup : (order.map (·.1)).Nodup
  mem_iff : ∀ i, i ∈ order.map (·.1) ↔ (s.effect? i).isSome
  drawn : ∀ x ∈ order, (requests x.1).draws = true → .draw x.1 x.2 ∈ history
  respects : order.Pairwise fun x y => ¬ Precedes history y.1 x.1
  inTurn : InTurn v requests s.effect? records order s.store.records

/-! ## Steps -/

section Steps

variable [DecidableEq ι]

/-- **One step** among callers, each with a request of its own. Octets that are drawn may be any. -/
inductive Step (v : Vault) (requests : ι → Request) : Callers ι → Event ι → Callers ι → Prop where
  | invoke {s : Callers ι} {i : ι} (h : s.phase i = .waiting) :
    Step v requests s (.invoke i) (s.enter i (.running ((requests i).call v)))
  | transact {s : Callers ι} {i : ι} {α : Type} {t : Transaction α}
      {next : Except StoreFault α → Call (Except Fault Reply)}
      (h : s.phase i = .running (.ask (.transact t) next)) :
    Step v requests s (.transact i)
      { s.enter i (.running (next (s.store.run t).1)) with store := (s.store.run t).2 }
  | sleep {s : Callers ι} {i : ι} {ms : Nat} {next : Unit → Call (Except Fault Reply)}
      (h : s.phase i = .running (.ask (.sleep ms) next)) :
    Step v requests s (.sleep i) (s.enter i (.running (next ())))
  | draw {s : Callers ι} {i : ι} {next : Noise → Call (Except Fault Reply)}
      (h : s.phase i = .running (.ask .draw next)) (noise : Noise) :
    Step v requests s (.draw i noise) (s.enter i (.running (next noise)))
  | reply {s : Callers ι} {i : ι} {reply : Except Fault Reply}
      (h : s.phase i = .running (.done reply)) :
    Step v requests s (.reply i) (s.enter i (.returned reply))
  | inject {s : Callers ι} (conflicts : Nat) :
    Step v requests s (.inject conflicts)
      { s with store := { s.store with pendingConflicts := conflicts } }

/-- Any number of steps, and what happened in them. -/
inductive Run (v : Vault) (requests : ι → Request) (s : Callers ι) :
    List (Event ι) → Callers ι → Prop where
  | nil : Run v requests s [] s
  | step {history : List (Event ι)} {s' s'' : Callers ι} {e : Event ι}
      (h : Run v requests s history s') (hstep : Step v requests s' e s'') :
    Run v requests s (history ++ [e]) s''

/-- Runs may be put together. -/
theorem Run.trans {v : Vault} {requests : ι → Request} {s s' s'' : Callers ι}
    {history history' : List (Event ι)} (h : Run v requests s history s')
    (h' : Run v requests s' history' s'') : Run v requests s (history ++ history') s'' := by
  induction h' with
  | nil =>
    rw [List.append_nil]
    exact h
  | step _ hstep ih =>
    rw [← List.append_assoc]
    exact ih.step hstep

end Steps

/-! ## The order of effects -/

/-- What is left of a call that has had no effect yet, with what it drew last. -/
abbrev Pending (v : Vault) (r : Request) : Option Noise → Call (Except Fault Reply) → Prop :=
  Atomic (fun d before a after => IsFinal a ∧
      ∃ noise, (r.draws = true → d = some noise) ∧ Alone (r.call v) noise before a after)
    (fun _ a => a = .error .maxAttempts)

section Effects

variable {v : Vault} {r : Request} {drawn : Option Noise} {c : Call (Except Fault Reply)}
  {reply : Except Fault Reply}

theorem effect?_of_isFinal (h : IsFinal reply) :
    (Phase.running (.done reply)).effect? = some reply := by
  unfold Phase.effect? Phase.outcome?
  split
  · next he => exact absurd (Option.some.inj he) h.2
  · rfl

theorem effect?_of_pending (h : Pending v r drawn c) : (Phase.running c).effect? = none := by
  cases c with
  | done a =>
    obtain rfl : a = .error .maxAttempts := h
    rfl
  | ask e next => rfl

end Effects

/-- **What a run keeps**: an order that explains it, and what the calls that still go on have left
to do. -/
structure Tracked (v : Vault) (requests : ι → Request) (records : Table Record)
    (history : List (Event ι)) (s : Callers ι) (order : List (ι × Noise)) : Prop
    extends Linearizes v requests records history s order where
  available : s.store.available = true
  running : ∀ i c, s.phase i = .running c → (∃ reply, c = .done reply) ∨
    ∃ drawn, Pending v (requests i) drawn c ∧ ∀ noise, drawn = some noise → .draw i noise ∈ history
  returned : ∀ i, .reply i ∈ history → ∃ reply, s.phase i = .returned reply

theorem Precedes.of_append {history : List (Event ι)} {e : Event ι} {i j : ι}
    (h : Precedes (history ++ [e]) i j) : Precedes history i j ∨ e = .invoke j := by
  obtain ⟨front, back, heq, hfront, hback⟩ := List.sublist_append_iff.1 h
  rcases List.sublist_singleton.1 hback with rfl | rfl
  · rw [List.append_nil] at heq
    exact .inl (by rw [Precedes, heq]; exact hfront)
  · have hlast : [.reply i, .invoke j].getLast? = (front ++ [e]).getLast? := congrArg _ heq
    rw [List.getLast?_concat] at hlast
    exact .inr (Option.some.inj hlast).symm

namespace Tracked

variable {v : Vault} {requests : ι → Request} {records : Table Record} {history : List (Event ι)}
  {s s' : Callers ι} {order : List (ι × Noise)} {e : Event ι} {i : ι}

/-- Before any call. -/
theorem start {store : Store} (h : store.available = true) :
    Tracked v requests store.records [] (.start store : Callers ι) [] where
  nodup := List.nodup_nil
  mem_iff i := by simp [Callers.effect?, Callers.start, Phase.effect?, Phase.outcome?]
  drawn := nofun
  respects := .nil
  inTurn := .nil
  available := h
  running i c h := by cases h
  returned := nofun

/-- What has an effect has no more to come. -/
theorem effect?_eq_none (h : Tracked v requests records history s order)
    {c : Call (Except Fault Reply)} (hphase : s.phase i = .running c)
    (hdone : ∀ reply, c ≠ .done reply) :
    s.effect? i = none ∧ ∃ drawn, Pending v (requests i) drawn c ∧
      ∀ noise, drawn = some noise → .draw i noise ∈ history := by
  rcases h.running i c hphase with ⟨reply, rfl⟩ | ⟨drawn, hpending, hdrawn⟩
  · exact absurd rfl (hdone reply)
  · exact ⟨by rw [Callers.effect?, hphase, effect?_of_pending hpending], drawn, hpending, hdrawn⟩

/-- No call is invoked behind one that it stands in front of. -/
theorem respects_append (h : Tracked v requests records history s order)
    (hinvoke : ∀ j, e = .invoke j → s.effect? j = none) :
    order.Pairwise fun x y => ¬ Precedes (history ++ [e]) y.1 x.1 := by
  refine h.respects.imp_of_mem fun {x y} hx _ hxy hprecedes => ?_
  rcases hprecedes.of_append with hprecedes | he
  · exact hxy hprecedes
  · have hsome := (h.mem_iff x.1).1 (List.mem_map_of_mem hx)
    rw [hinvoke x.1 he] at hsome
    contradiction

/-- A call that still goes on has not returned before another one, so it may stand behind all. -/
theorem respects_concat (h : Tracked v requests records history s order)
    (hunreturned : ∀ reply, s.phase i ≠ .returned reply) (noise : Noise) :
    (order ++ [(i, noise)]).Pairwise fun x y =>
      ¬ Precedes (history ++ [.transact i]) y.1 x.1 := by
  refine List.pairwise_append.2 ⟨h.respects_append nofun, List.pairwise_singleton _ _, ?_⟩
  rintro x - y hy hprecedes
  obtain rfl := List.mem_singleton.1 hy
  rcases hprecedes.of_append with hprecedes | he
  · have hreply : .reply i ∈ history := hprecedes.subset List.mem_cons_self
    obtain ⟨reply, hreturned⟩ := h.returned i hreply
    exact hunreturned reply hreturned
  · cases he

/-- A planned conflict changes nothing about the calls. -/
theorem inject (h : Tracked v requests records history s order) (conflicts : Nat) :
    Tracked v requests records (history ++ [.inject conflicts])
      { s with store := { s.store with pendingConflicts := conflicts } } order where
  nodup := h.nodup
  mem_iff := h.mem_iff
  drawn x hx hd := List.mem_append_left _ (h.drawn x hx hd)
  respects := h.respects_append nofun
  inTurn := h.inTurn
  available := h.available
  running j c hj := (h.running j c hj).imp id fun ⟨drawn, hpending, hdrawn⟩ =>
    ⟨drawn, hpending, fun noise hn => List.mem_append_left _ (hdrawn noise hn)⟩
  returned j hj := h.returned j (by simpa using hj)

variable [DecidableEq ι]

/-- The calls that go on, after a step of one of them. -/
theorem running_enter (h : Tracked v requests records history s order) {p : Phase}
    (hrunning : ∀ c, p = .running c → (∃ reply, c = .done reply) ∨
      ∃ drawn, Pending v (requests i) drawn c ∧
        ∀ noise, drawn = some noise → .draw i noise ∈ history ++ [e])
    (j : ι) (c : Call (Except Fault Reply)) (hphase : (s.enter i p).phase j = .running c) :
    (∃ reply, c = .done reply) ∨ ∃ drawn, Pending v (requests j) drawn c ∧
      ∀ noise, drawn = some noise → .draw j noise ∈ history ++ [e] := by
  rw [Callers.phase_enter] at hphase
  split at hphase
  · next hj =>
    subst hj
    exact hrunning c hphase
  · refine (h.running j c hphase).imp id ?_
    rintro ⟨drawn, hpending, hdrawn⟩
    exact ⟨drawn, hpending, fun noise hn => List.mem_append_left _ (hdrawn noise hn)⟩

/-- The calls that have returned, after a step of one that has not. -/
theorem returned_enter (h : Tracked v requests records history s order) {p : Phase}
    (hcaller : e.caller? = some i) (hunreturned : ∀ reply, s.phase i ≠ .returned reply)
    (hreply : e = .reply i → ∃ reply, p = .returned reply) (j : ι)
    (hj : .reply j ∈ history ++ [e]) : ∃ reply, (s.enter i p).phase j = .returned reply := by
  rw [Callers.phase_enter]
  rcases List.mem_append.1 hj with hj | hj
  · obtain ⟨reply, hphase⟩ := h.returned j hj
    rw [if_neg (by rintro rfl; exact hunreturned reply hphase)]
    exact ⟨reply, hphase⟩
  · obtain rfl := List.mem_singleton.1 hj
    obtain rfl : j = i := Option.some.inj hcaller
    rw [if_pos rfl]
    exact hreply rfl

/-- **A step without effect** keeps the order. -/
theorem enter (h : Tracked v requests records history s order) {p : Phase} {store : Store}
    (hcaller : e.caller? = some i) (hrecords : store.records = s.store.records)
    (havailable : store.available = true) (heffect : p.effect? = s.effect? i)
    (hinvoke : ∀ j, e = .invoke j → s.effect? j = none)
    (hunreturned : ∀ reply, s.phase i ≠ .returned reply)
    (hreply : e = .reply i → ∃ reply, p = .returned reply)
    (hrunning : ∀ c, p = .running c → (∃ reply, c = .done reply) ∨
      ∃ drawn, Pending v (requests i) drawn c ∧
        ∀ noise, drawn = some noise → .draw i noise ∈ history ++ [e]) :
    Tracked v requests records (history ++ [e]) { s.enter i p with store := store } order := by
  -- no call has gained an effect or lost one, so the old order explains the new state
  have hsame : ∀ j, Callers.effect? { s.enter i p with store := store } j = s.effect? j := by
    intro j
    rw [Callers.effect?_enter]
    split
    · next hj => rw [heffect, hj]
    · rfl
  exact {
    nodup := h.nodup
    mem_iff := fun j => by rw [hsame, h.mem_iff]
    drawn := fun x hx hd => List.mem_append_left _ (h.drawn x hx hd)
    respects := h.respects_append hinvoke
    inTurn := by
      dsimp only
      rw [hrecords]
      exact h.inTurn.congr fun x _ => hsame x.1
    available := havailable
    running := h.running_enter hrunning
    returned := h.returned_enter hcaller hunreturned hreply }

/-- **The step of an effect** puts the call at the end of the order. -/
theorem effect (h : Tracked v requests records history s order) {store : Store}
    {c : Call (Except Fault Reply)} {reply : Except Fault Reply} {noise : Noise}
    (hphase : s.phase i = .running c) (hnone : s.effect? i = none) (hfinal : IsFinal reply)
    (havailable : store.available = true)
    (hdraws : (requests i).draws = true → .draw i noise ∈ history)
    (hserve : v.serveAlone s.store.records (requests i) noise = (reply, store.records)) :
    Tracked v requests records (history ++ [.transact i])
      { s.enter i (.running (.done reply)) with store := store } (order ++ [(i, noise)]) := by
  have hunreturned : ∀ reply, s.phase i ≠ .returned reply := by simp [hphase]
  -- what is in the order has an effect, and this call had none
  have hnew : i ∉ order.map (·.1) := by
    rw [h.mem_iff, hnone]
    nofun
  have heffect : ∀ j, Callers.effect? { s.enter i (.running (.done reply)) with store := store } j =
      if j = i then some reply else s.effect? j := by
    intro j
    rw [Callers.effect?_enter, effect?_of_isFinal hfinal]
  refine {
    nodup := ?_
    mem_iff := fun j => ?_
    drawn := fun x hx hd => ?_
    respects := h.respects_concat hunreturned noise
    inTurn := ?_
    available := havailable
    running := h.running_enter fun c hc => .inl ⟨reply, by cases hc; rfl⟩
    returned := h.returned_enter rfl hunreturned nofun }
  · rw [List.map_append, List.nodup_append]
    refine ⟨h.nodup, List.nodup_singleton _, ?_⟩
    rintro a ha _ hb rfl
    obtain rfl : a = i := List.mem_singleton.1 hb
    exact hnew ha
  · rw [List.map_append, List.mem_append, h.mem_iff, heffect]
    by_cases hj : j = i
    · simp [hj]
    · simp [hj]
  · rcases List.mem_append.1 hx with hx | hx
    · exact List.mem_append_left _ (h.drawn x hx hd)
    · obtain rfl := List.mem_singleton.1 hx
      exact List.mem_append_left _ (hdraws hd)
  · -- the calls in front of it have the effects that they had
    have hbefore : InTurn v requests
        (Callers.effect? { s.enter i (.running (.done reply)) with store := store }) records order
          s.store.records := by
      refine h.inTurn.congr fun x hx => ?_
      rw [heffect, if_neg]
      rintro rfl
      exact hnew (List.mem_map_of_mem hx)
    exact hbefore.concat hserve (by rw [heffect, if_pos rfl])

/-- A call that goes on, with no effect yet, keeps the order too. -/
theorem goesOn (h : Tracked v requests records history s order) {store : Store}
    {c : Call (Except Fault Reply)} {drawn : Option Noise} (hcaller : e.caller? = some i)
    (hrecords : store.records = s.store.records) (havailable : store.available = true)
    (hnone : s.effect? i = none) (hunreturned : ∀ reply, s.phase i ≠ .returned reply)
    (hreply : e ≠ .reply i) (hpending : Pending v (requests i) drawn c)
    (hdrawn : ∀ noise, drawn = some noise → .draw i noise ∈ history ++ [e]) :
    Tracked v requests records (history ++ [e]) { s.enter i (.running c) with store := store }
      order := by
  refine h.enter hcaller hrecords havailable ?_ ?_ hunreturned (fun he => absurd he hreply) ?_
  · rw [hnone, effect?_of_pending hpending]
  · rintro j rfl
    obtain rfl : j = i := Option.some.inj hcaller
    exact hnone
  · intro c' hc
    obtain rfl := Phase.running.inj hc
    exact .inr ⟨drawn, hpending, hdrawn⟩

/-- A transaction has no effect, or is the moment at which the call takes effect. -/
theorem transact (h : Tracked v requests records history s order) {α : Type} {t : Transaction α}
    {next : Except StoreFault α → Call (Except Fault Reply)}
    (hphase : s.phase i = .running (.ask (.transact t) next)) :
    ∃ order', Tracked v requests records (history ++ [.transact i])
      { s.enter i (.running (next (s.store.run t).1)) with store := (s.store.run t).2 } order' := by
  obtain ⟨hnone, drawn, hpending, hdrawn⟩ := h.effect?_eq_none hphase (Program.ask_ne_done _ _)
  have hrun : s.store.run t = s.store.answer t := if_pos h.available
  have havailable : (s.store.answer t).2.available = true := by
    rw [s.store.available_answer, h.available]
  rw [hrun]
  rcases hpending s.store with ⟨hrecords, hnext⟩ | ⟨reply, hreply, hfinal, noise, hnoise, halone⟩
  · exact ⟨order, h.goesOn rfl hrecords havailable hnone (by simp [hphase]) nofun hnext
      fun noise hn => List.mem_append_left _ (hdrawn noise hn)⟩
  · rw [hreply]
    exact ⟨_, h.effect hphase hnone hfinal havailable (fun hd => hdrawn noise (hnoise hd))
      halone.serveAlone_eq⟩

/-- **One step keeps the calls in order**: at most one call takes effect in it, and is the last
one. -/
theorem step (h : Tracked v requests records history s order)
    (hstep : Step v requests s e s') :
    ∃ order', Tracked v requests records (history ++ [e]) s' order' := by
  cases hstep with
  | invoke hphase =>
    next i =>
    have hnone : s.effect? i = none := by
      rw [Callers.effect?, hphase]
      rfl
    exact ⟨order, h.goesOn rfl rfl h.available hnone (by simp [hphase]) nofun
      (takesEffectOnce_call v (requests i)) nofun⟩
  | transact hphase => exact h.transact hphase
  | sleep hphase =>
    next i ms next =>
    obtain ⟨hnone, drawn, hpending, hdrawn⟩ := h.effect?_eq_none hphase (Program.ask_ne_done _ _)
    have hnext : Pending v (requests i) drawn (next ()) := hpending
    exact ⟨order, h.goesOn rfl rfl h.available hnone (by simp [hphase]) nofun hnext
      fun noise hn => List.mem_append_left _ (hdrawn noise hn)⟩
  | draw hphase noise =>
    next i next =>
    obtain ⟨hnone, drawn, hpending, -⟩ := h.effect?_eq_none hphase (Program.ask_ne_done _ _)
    have hnext : Pending v (requests i) (some noise) (next noise) := hpending noise
    refine ⟨order, h.goesOn rfl rfl h.available hnone (by simp [hphase]) nofun hnext ?_⟩
    -- what was drawn last is what this step has drawn
    rintro _ ⟨⟩
    exact List.mem_append_right _ (List.mem_singleton_self _)
  | reply hphase =>
    next i reply =>
    refine ⟨order, h.enter rfl rfl h.available ?_ nofun (by simp [hphase])
      (fun _ => ⟨reply, rfl⟩) (by simp)⟩
    rw [Callers.effect?, hphase]
    rfl
  | inject conflicts => exact ⟨order, h.inject conflicts⟩

/-- **A run keeps the calls in order.** -/
theorem run {store : Store} (havailable : store.available = true)
    (h : Run v requests (.start store) history s) :
    ∃ order, Tracked v requests store.records history s order := by
  induction h with
  | nil => exact ⟨[], .start havailable⟩
  | step _ hstep ih =>
    obtain ⟨order, htracked⟩ := ih
    exact htracked.step hstep

end Tracked

/-! ## Calls that run out of attempts -/

section Exhausted

variable [DecidableEq ι] {v : Vault} {requests : ι → Request} {s s' : Callers ι} {e : Event ι}
  {i : ι} {reply : Except Fault Reply}

/-- The outcome of a call stays what it is. -/
theorem Step.outcome?_eq (h : Step v requests s e s') (hi : s.outcome? i = some reply) :
    s'.outcome? i = some reply := by
  have henter (j : ι) (p : Phase) (store : Store) (hj : j = i → p.outcome? = some reply) :
      Callers.outcome? { s.enter j p with store := store } i = some reply := by
    rw [Callers.outcome?_enter]
    split
    · next hij => exact hj hij.symm
    · exact hi
  -- a call with an outcome takes no step but to return
  have hnone {j : ι} {p : Phase} (hphase : s.phase j = p) (hp : p.outcome? = none) : j ≠ i := by
    rintro rfl
    rw [Callers.outcome?, hphase, hp] at hi
    contradiction
  cases h with
  | invoke hphase => exact henter _ _ _ fun hj => absurd hj (hnone hphase rfl)
  | transact hphase => exact henter _ _ _ fun hj => absurd hj (hnone hphase rfl)
  | sleep hphase => exact henter _ _ _ fun hj => absurd hj (hnone hphase rfl)
  | draw hphase noise => exact henter _ _ _ fun hj => absurd hj (hnone hphase rfl)
  | reply hphase =>
    refine henter _ _ _ ?_
    rintro rfl
    rw [Callers.outcome?, hphase] at hi
    exact hi
  | inject conflicts => exact hi

theorem Run.outcome?_eq {history : List (Event ι)} (h : Run v requests s history s')
    (hi : s.outcome? i = some reply) : s'.outcome? i = some reply := by
  induction h with
  | nil => exact hi
  | step _ hstep ih => exact hstep.outcome?_eq ih

/-- **A step that changes the records** is the one in which its call takes effect. -/
theorem Tracked.records_eq_or {records : Table Record} {history : List (Event ι)}
    {order : List (ι × Noise)} (h : Tracked v requests records history s order)
    (hstep : Step v requests s e s') (hcaller : e.caller? = some i) :
    s'.store.records = s.store.records ∨ ∃ reply, s'.outcome? i = some reply ∧ IsFinal reply := by
  cases hstep with
  | transact hphase =>
    next j α t next =>
    obtain rfl : j = i := Option.some.inj hcaller
    obtain ⟨-, drawn, hpending, -⟩ := h.effect?_eq_none hphase (Program.ask_ne_done _ _)
    have hrun : s.store.run t = s.store.answer t := if_pos h.available
    rw [hrun]
    rcases hpending s.store with ⟨hrecords, -⟩ | ⟨reply, hreply, hfinal, -⟩
    · exact .inl hrecords
    · refine .inr ⟨reply, ?_, hfinal⟩
      rw [hreply, Callers.outcome?_enter, if_pos rfl]
      rfl
  | invoke | sleep | draw | reply | inject => exact .inl rfl

/-- **A call that runs out of attempts has no effect**, in no step of its own. -/
theorem records_eq_of_exhausted {store : Store} (havailable : store.available = true)
    {before after : List (Event ι)} {s₁ s₂ : Callers ι}
    (hbefore : Run v requests (.start store) before s₁) (hstep : Step v requests s₁ e s₂)
    (hafter : Run v requests s₂ after s) (hcaller : e.caller? = some i)
    (hexhausted : s.outcome? i = some (.error .maxAttempts)) :
    s₂.store.records = s₁.store.records := by
  obtain ⟨order, htracked⟩ := Tracked.run havailable hbefore
  rcases htracked.records_eq_or hstep hcaller with hrecords | ⟨reply, hreply, hfinal⟩
  · exact hrecords
  · have hlast := hafter.outcome?_eq hreply
    rw [hexhausted] at hlast
    exact absurd (Option.some.inj hlast).symm hfinal.2

end Exhausted

end FiscalGateway.Vault
