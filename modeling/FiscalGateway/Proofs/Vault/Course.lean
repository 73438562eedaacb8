import FiscalGateway.Proofs.Vault.Concurrent
import FiscalGateway.Proofs.Vault.Refinement
import Mathlib.Data.Stream.Init

/-!
# Courses of events — an operation while the store does as it pleases

A world stands still while an operation runs in it. In a `Course` something may happen before each
step: conflicts are planned, an outage begins or ends (`Weather`). `Call.runOn` runs an operation in
a course of events, and is `Call.run` where nothing happens (`runOn_calm`).

An operation ends as soon as the store is out of reach (`EndsWith`). Since it takes effect at one
moment only, each request is either served as where nothing interferes or leaves all records as they
are, whatever happens meanwhile (`runOn_call`).
-/

namespace FiscalGateway.Vault

variable {α β ε : Type}

/-! ## Courses -/

/-- What happens between two steps: so many conflicts are planned, or an outage begins or ends. -/
structure Weather where
  conflicts? : Option Nat
  available? : Option Bool

/-- Nothing happens. -/
def Weather.calm : Weather := ⟨none, none⟩

/-- A store under this weather. -/
def Store.under (s : Store) (x : Weather) : Store where
  records := s.records
  pendingConflicts := x.conflicts?.getD s.pendingConflicts
  available := x.available?.getD s.available

@[simp] theorem Store.under_calm (s : Store) : s.under .calm = s := rfl

/-- **A course of events**: a world, and what happens before each step to come. -/
structure Course where
  world : World
  weather : Stream' Weather

namespace Course

/-- The records that there are. -/
def records (s : Course) : Table Record := s.world.store.records

/-- The world at the next step. -/
def next (s : Course) : World := { s.world with store := s.world.store.under s.weather.head }

/-- The octets that were drawn between two moments. -/
def drawn (s s' : Course) : List Noise := s.world.supply (s'.world.drawn - s.world.drawn)

end Course

/-- The course in which nothing happens. -/
def World.calm (w : World) : Course := ⟨w, .const .calm⟩

/-- What an effect does. -/
def Effect.meet (e : Effect α) : StateM Course α := fun s =>
  let (a, world) := e.perform s.next
  (a, ⟨world, s.weather.tail⟩)

/-- Runs an operation in a course of events. -/
def Call.runOn (c : Call α) (s : Course) : α × Course :=
  (Program.eval Effect.meet c : StateM Course α).run s

variable {s : Course}

theorem runOn_done (a : α) : Call.runOn (.done a) s = (a, s) := rfl

theorem runOn_ask {γ : Type} (e : Effect γ) (next : γ → Call α) :
    Call.runOn (.ask e next) s = Call.runOn (next (e.meet s).1) (e.meet s).2 := rfl

/-- **Where nothing happens, a course of events is a world.** -/
theorem runOn_calm (c : Call α) (w : World) :
    c.runOn w.calm = ((Call.run c w).1, (Call.run c w).2.calm) := by
  induction c generalizing w with
  | done a => rfl
  | ask e next ih =>
    have hmeet : e.meet w.calm = ((e.perform w).1, (e.perform w).2.calm) := by
      simp only [Effect.meet, Course.next, World.calm, Stream'.tail_const]
      rfl
    rw [runOn_ask, hmeet, ih]
    rfl

/-- Computations in sequence are run in sequence. -/
theorem runOn_bind (c : Call α) (f : α → Call β) (s : Course) :
    Call.runOn (c >>= f) s = Call.runOn (f (Call.runOn c s).1) (Call.runOn c s).2 := by
  simp only [Call.runOn, Program.eval_bind]
  rfl

theorem runOn_andThen (c : Call (Except Fault α)) (f : α → Except Fault β) (s : Course) :
    Call.runOn (andThen c f) s = ((Call.runOn c s).1 >>= f, (Call.runOn c s).2) := by
  rw [andThen, runOn_bind]
  rfl

/-- **Reading changes nothing**, whatever happens meanwhile. -/
theorem records_runOn_transact {t : Transaction α} (ht : ∀ s : Store, (s.answer t).2 = s)
    (s : Course) : ((transact t).runOn s).2.records = s.records := by
  have hrun : ((transact t).runOn s).2 =
      ⟨{ s.next with store := (s.next.store.run t).2 }, s.weather.tail⟩ := rfl
  have hstore : (s.next.store.run t).2 = s.next.store := by
    unfold Store.run
    split
    · exact ht s.next.store
    · rfl
  rw [hrun, hstore]
  rfl

theorem records_runOn_get (v : Vault) (id : String) (password : Octets) (s : Course) :
    ((v.get id password).runOn s).2.records = s.records := by
  rw [get, runOn_andThen]
  exact records_runOn_transact (t := .read (v.recordKey id)) (fun _ => rfl) s

theorem records_runOn_list (v : Vault) (offset limit : Nat) (s : Course) :
    ((v.list offset limit).runOn s).2.records = s.records := by
  rw [list, runOn_andThen]
  exact records_runOn_transact (t := .scan v.space) (fun _ => rfl) s

theorem records_runOn_ping (s : Course) : (ping.runOn s).2.records = s.records :=
  records_runOn_transact (t := .ping) (fun _ => rfl) s

/-! ## What is drawn -/

/-- Draws are taken from one supply, one after the other. -/
theorem meet_drawn (e : Effect α) (s : Course) :
    (e.meet s).2.world.noise = s.world.noise ∧ s.world.drawn ≤ (e.meet s).2.world.drawn := by
  cases e with
  | transact t => exact ⟨rfl, le_rfl⟩
  | sleep ms => exact ⟨rfl, le_rfl⟩
  | draw => exact ⟨rfl, Nat.le_succ _⟩

theorem runOn_drawn (c : Call α) (s : Course) :
    (c.runOn s).2.world.noise = s.world.noise ∧ s.world.drawn ≤ (c.runOn s).2.world.drawn := by
  induction c generalizing s with
  | done a => exact ⟨rfl, le_rfl⟩
  | ask e next ih =>
    obtain ⟨hnoise, hdrawn⟩ := meet_drawn e s
    obtain ⟨hnoise', hdrawn'⟩ := ih (e.meet s).1 (e.meet s).2
    exact ⟨hnoise'.trans hnoise, hdrawn.trans hdrawn'⟩

/-- What the rest of an operation draws, the operation draws. -/
theorem drawn_meet_subset (e : Effect β) (next : β → Call α) (s : Course) :
    (e.meet s).2.drawn (Call.runOn (.ask e next) s).2 ⊆
      s.drawn (Call.runOn (.ask e next) s).2 := by
  obtain ⟨hnoise, hdrawn⟩ := meet_drawn e s
  intro noise h
  obtain ⟨i, hi, rfl⟩ := mem_supply.1 h
  refine mem_supply.2 ⟨(e.meet s).2.world.drawn - s.world.drawn + i, by omega, ?_⟩
  rw [hnoise]
  congr 1
  omega

/-- What a draw gives is drawn. -/
theorem mem_drawn_draw (next : Noise → Call α) (s : Course) :
    s.world.noise s.world.drawn ∈ s.drawn (Call.runOn (.ask .draw next) s).2 := by
  have hdrawn : s.world.drawn + 1 ≤ (Call.runOn (.ask .draw next) s).2.world.drawn :=
    (runOn_drawn (next (s.world.noise s.world.drawn)) (Effect.draw.meet s).2).2
  exact mem_supply.2 ⟨0, by omega, rfl⟩

/-! ## Outages -/

/-- **A call that ends as soon as the store is out of reach**, with an outcome that tells the
reason. -/
def EndsWith (out : String → α) : Call α → Prop
  | .done _ => True
  | .ask (.transact _) next =>
    (∀ reason, next (.error (.backend reason)) = .done (out reason)) ∧
      ∀ answer, EndsWith out (next answer)
  | .ask (.sleep _) next => EndsWith out (next ())
  | .ask .draw next => ∀ noise, EndsWith out (next noise)

namespace EndsWith

variable {out : String → α} {out' : String → β}

/-- What follows a call has to pass the reason on. -/
theorem bind {c : Call α} {f : α → Call β} (h : EndsWith out c)
    (hout : ∀ reason, f (out reason) = .done (out' reason)) (hf : ∀ a, EndsWith out' (f a)) :
    EndsWith out' (c >>= f) := by
  induction c with
  | done a => exact hf a
  | ask e next ih =>
    cases e with
    | transact t =>
      refine ⟨fun reason => ?_, fun answer => ih answer (h.2 answer)⟩
      have hbind : next (.error (.backend reason)) >>= f = .done (out' reason) := by
        rw [h.1 reason, Program.done_bind, hout]
      exact hbind
    | sleep ms => exact ih () h
    | draw => exact fun noise => ih noise (h noise)

/-- The outcome of an operation that found the store out of reach. -/
abbrev unavailable (reason : String) : Except Fault α := .error (.unavailable reason)

theorem transact (t : Transaction α) : EndsWith unavailable (transact t) :=
  ⟨fun _ => rfl, fun _ => trivial⟩

theorem andThen {c : Call (Except Fault α)} (h : EndsWith unavailable c)
    (f : α → Except Fault β) : EndsWith unavailable (andThen c f) :=
  h.bind (fun _ => rfl) fun _ => trivial

/-- An outage is no conflict, so it ends a loop of attempts. -/
theorem retryFrom {attempt : Call (Except Fault α)} (h : EndsWith unavailable attempt)
    (policy : RetryPolicy) (left k : Nat) :
    EndsWith (fun reason => .error (.aborted (.unavailable reason)))
      (retryFrom policy isConflict attempt (fun ms => Program.request (.sleep ms)) k left) := by
  induction left generalizing k with
  | zero =>
    refine h.bind (fun _ => rfl) fun a => ?_
    cases a <;> trivial
  | succ left ih =>
    refine h.bind (fun _ => rfl) fun a => ?_
    cases a with
    | ok a => trivial
    | error e =>
      dsimp only
      split
      · exact ih (k + 1)
      · trivial

theorem persist {attempt : Call (Except Fault α)} (h : EndsWith unavailable attempt) (v : Vault) :
    EndsWith unavailable (v.persist attempt) :=
  (h.retryFrom v.policy _ 0).bind (fun _ => rfl) fun _ => trivial

/-- **Every request ends as soon as the store is out of reach.** -/
theorem call (v : Vault) (r : Request) : EndsWith unavailable (r.call v) := by
  cases r with
  | store id password pair =>
    have hdraw : EndsWith unavailable (v.store id password pair) :=
      fun noise => ((transact _).persist v).andThen _
    exact hdraw.andThen _
  | get id password => exact ((transact _).andThen _).andThen _
  | list offset limit => exact ((transact _).andThen _).andThen _
  | updateId oldId newId => exact (((transact _).persist v).andThen _).andThen _
  | updatePassword id oldPassword newPassword =>
    have hattempt : EndsWith unavailable (Program.request .draw >>= fun noise =>
        Vault.andThen (Vault.transact (.update (v.recordKey id)
          (v.resealed id oldPassword newPassword noise))) fun done => done) :=
      fun noise => (transact _).andThen _
    exact (hattempt.persist v).andThen _
  | delete id => exact ((transact _).andThen _).andThen _

end EndsWith

/-! ## One moment -/

/-- What has become of a call between two moments: it took effect, with what it drew last, or it
left the records and ended as it does for want of a quiet moment or of the store. -/
def EffectOnce (commits : Option Noise → Table Record → α → Table Record → Prop)
    (idle : Option Noise → α → Prop) (out : String → α) (drawn : Option Noise) (s : Course) (a : α)
    (s' : Course) : Prop :=
  (s'.records = s.records ∧ ((∃ d, idle d a) ∨ ∃ reason, a = out reason)) ∨
    ∃ d, commits d s.records a s'.records ∧ (d = drawn ∨ ∃ noise ∈ s.drawn s', d = some noise)

/-- **A call that takes effect at most once does so in every course of events.** -/
theorem Atomic.runOn {commits : Option Noise → Table Record → α → Table Record → Prop}
    {idle : Option Noise → α → Prop} {drawn : Option Noise} {out : String → α} {c : Call α}
    (h : Atomic commits idle drawn c) (hends : EndsWith out c) (s : Course) :
    EffectOnce commits idle out drawn s (c.runOn s).1 (c.runOn s).2 := by
  induction c generalizing drawn s with
  | done a => exact .inl ⟨rfl, .inl ⟨drawn, h⟩⟩
  | ask e next ih =>
    -- a step that leaves the records; what the rest draws is drawn
    have hrest {drawn' : Option Noise} (hrecords : (e.meet s).2.records = s.records)
        (hdrawn : drawn' = drawn ∨
          ∃ noise ∈ s.drawn (Call.runOn (.ask e next) s).2, drawn' = some noise)
        (h : Atomic commits idle drawn' (next (e.meet s).1))
        (hends : EndsWith out (next (e.meet s).1)) :
        EffectOnce commits idle out drawn s (Call.runOn (.ask e next) s).1
          (Call.runOn (.ask e next) s).2 := by
      have hnext := ih (e.meet s).1 h hends (e.meet s).2
      rw [← runOn_ask, EffectOnce, hrecords] at hnext
      refine hnext.imp_right fun ⟨d, hcommit, hd⟩ => ⟨d, hcommit, ?_⟩
      rcases hd with rfl | ⟨noise, hnoise, hd⟩
      · exact hdrawn
      · exact .inr ⟨noise, drawn_meet_subset e next s hnoise, hd⟩
    cases e with
    | transact t =>
      by_cases hreach : s.next.store.available = true
      · have hmeet : (Effect.transact t).meet s = ((s.next.store.answer t).1,
            ⟨{ s.next with store := (s.next.store.answer t).2 }, s.weather.tail⟩) := by
          simp only [Effect.meet, Effect.perform, Store.run, if_pos hreach]
        rcases h s.next.store with ⟨hrecords, hnext⟩ | ⟨a, ha, hcommit⟩
        · rw [hmeet] at hrest
          exact hrest hrecords (.inl rfl) hnext (hends.2 _)
        · rw [runOn_ask, hmeet]
          dsimp only
          rw [ha, runOn_done]
          exact .inr ⟨drawn, hcommit, .inl rfl⟩
      · have hmeet : (Effect.transact t).meet s =
            (.error (.backend "connection refused"), ⟨s.next, s.weather.tail⟩) := by
          simp only [Effect.meet, Effect.perform, Store.run, if_neg hreach]
        rw [runOn_ask, hmeet]
        dsimp only
        rw [hends.1, runOn_done]
        exact .inl ⟨rfl, .inr ⟨_, rfl⟩⟩
    | sleep ms => exact hrest rfl (.inl rfl) h hends
    | draw => exact hrest rfl (.inr ⟨_, mem_drawn_draw next s, rfl⟩) (h _) (hends _)

/-- A fault for want of a quiet moment, or of the store. -/
def Fault.IsInterruption (f : Fault) : Prop := f = .maxAttempts ∨ ∃ reason, f = .unavailable reason

/-- **Served or not at all.** In any course of events a request is served as where nothing
interferes, with octets that it drew, or it leaves the records as they are and says that it was
interrupted. -/
theorem runOn_call (v : Vault) (r : Request) (s : Course) :
    (((r.call v).runOn s).2.records = s.records ∧
        ∃ f : Fault, f.IsInterruption ∧ ((r.call v).runOn s).1 = .error f) ∨
      ∃ noise, (r.draws = true → noise ∈ s.drawn ((r.call v).runOn s).2) ∧
        v.serveAlone s.records r noise =
          (((r.call v).runOn s).1, ((r.call v).runOn s).2.records) := by
  rcases (takesEffectOnce_call v r).runOn (EndsWith.call v r) s with
    ⟨hrecords, hout⟩ | ⟨d, ⟨-, noise, hd, halone⟩, hdrawn⟩
  · refine .inl ⟨hrecords, ?_⟩
    rcases hout with ⟨-, hidle⟩ | ⟨reason, hout⟩
    · exact ⟨.maxAttempts, .inl rfl, hidle⟩
    · exact ⟨.unavailable reason, .inr ⟨reason, rfl⟩, hout⟩
  · refine .inr ⟨noise, fun hdraws => ?_, halone.serveAlone_eq⟩
    obtain rfl := hd hdraws
    -- nothing was drawn before the call
    rcases hdrawn with hnone | ⟨noise', hnoise', hsame⟩
    · contradiction
    · rwa [Option.some.inj hsame]

end FiscalGateway.Vault
