import FiscalGateway.Gateway.World
import FiscalGateway.Proofs.Vault.Course

/-!
# Courses of events — the gateway while anything may happen

In a `Course` there is weather for the vault, and the token may be cancelled before each step, not
only while time passes. `Call.runOn` runs an operation in a course of events. Also when it never
ends there is a course that it leads to, so what it sent is known (`Effect.abandon`). Where nothing
happens it is `Call.run` (`runOn_calm`).

A computation of the vault is run as it would be alone: it never asks for the token
(`runOn_ofVault`), and `committing` asks for it once, at its first step (`runOn_committing`).
-/

namespace FiscalGateway.Gateway

variable {α β : Type}

/-! ## Courses -/

/-- **A course of events**: a world, and what happens before each step to come. -/
structure Course where
  world : World
  weather : Stream' Vault.Weather
  /-- Whether the token is cancelled. -/
  signals : Stream' Bool

namespace Course

/-- The course of events as the vault sees it. -/
def vault (s : Course) : Vault.Course := ⟨s.world.vault, s.weather⟩

/-- The stored records. -/
def records (s : Course) : Table Vault.Record := s.world.vault.store.records

/-- The envelopes that were sent, the latest first. -/
def received (s : Course) : List Octets := s.world.registry.received

/-- The token at the next step. -/
def token (s : Course) : Token :=
  { s.world.token with cancelled := s.world.token.cancelled || s.signals.head }

/-- The world at the next step. -/
def next (s : Course) : World := { s.world with vault := s.vault.next, token := s.token }

/-- Whether the token is cancelled by the next step. -/
def isCancelled (s : Course) : Bool := s.token.isCancelled s.world.vault.clock

/-- The course behind a step that leads to a world. -/
def behind (s : Course) (w : World) : Course := ⟨w, s.weather.tail, s.signals.tail⟩

/-- The course behind a step that changes nothing. -/
def idle (s : Course) : Course := s.behind s.next

end Course

/-- The course in which nothing happens. -/
def World.calm (w : World) : Course := ⟨w, .const .calm, .const false⟩

/-- The world in which an effect takes for ever: what was sent was sent. -/
def Effect.abandon : Effect α → World → World
  | .send envelope, w => { w with registry := (w.registry.take envelope).2 }
  | _, w => w

/-- What an effect does; there is no result if it takes for ever. -/
def Effect.meet (e : Effect α) : OptionT (StateM Course) α := fun s =>
  match e.perform s.next with
  | some (a, after) => (some a, s.behind after)
  | none => (none, s.behind (e.abandon s.next))

/-- Runs an operation in a course of events. There is no result if it takes for ever. -/
def Call.runOn (c : Call α) (s : Course) : Option α × Course :=
  (Program.eval Effect.meet c : OptionT (StateM Course) α).run.run s

theorem runOn_ask (e : Effect β) (next : β → Call α) (s : Course) :
    Call.runOn (.ask e next) s =
      match e.meet s with
      | (some b, s') => Call.runOn (next b) s'
      | (none, s') => (none, s') := by
  have hbind : Call.runOn (.ask e next) s =
      ((e.meet >>= fun b => Program.eval Effect.meet (next b) : OptionT (StateM Course) α).run.run s) :=
    rfl
  rw [hbind]
  simp only [bind, OptionT.bind, OptionT.mk, OptionT.run, StateT.run, StateT.bind]
  rcases e.meet s with ⟨_ | b, s'⟩ <;> rfl

/-- **Where nothing happens, a course of events is a world.** -/
theorem runOn_calm (c : Call α) (w : World) :
    (∀ a after, Call.run c w = some (a, after) → c.runOn w.calm = (some a, after.calm)) ∧
      (Call.run c w = none → (c.runOn w.calm).1 = none) := by
  induction c generalizing w with
  | done a =>
    refine ⟨fun a' after h => ?_, fun h => ?_⟩
    · obtain ⟨rfl, rfl⟩ := Prod.mk.inj (Option.some.inj h)
      rfl
    · cases h
  | ask e next ih =>
    have hnext : w.calm.next = w := by
      simp [Course.next, Course.token, Course.vault, World.calm, Vault.Course.next]
    have hbehind (w' : World) : w.calm.behind w' = w'.calm := by
      simp only [Course.behind, World.calm, Stream'.tail_const]
    have hrun : Call.run (.ask e next) w =
        (e.perform w).bind fun done => Call.run (next done.1) done.2 := rfl
    rw [runOn_ask, hrun]
    -- an effect that never ends abandons both runs
    cases hperform : e.perform w with
    | none =>
      have hmeet : e.meet w.calm = (none, (e.abandon w).calm) := by
        rw [Effect.meet, hnext, hperform]
        exact congrArg (Prod.mk none) (hbehind _)
      rw [hmeet]
      exact ⟨fun a after h => (by cases h), fun _ => rfl⟩
    | some done =>
      have hmeet : e.meet w.calm = (some done.1, done.2.calm) := by
        rw [Effect.meet, hnext, hperform]
        exact congrArg (Prod.mk (some done.1)) (hbehind _)
      rw [hmeet]
      exact ih done.1 done.2

/-! ## Parts of an operation -/

/-- Computations in sequence are run in sequence; behind one that takes for ever nothing is run. -/
theorem runOn_bind (c : Call α) (f : α → Call β) (s : Course) :
    Call.runOn (c >>= f) s =
      match Call.runOn c s with
      | (some a, s') => Call.runOn (f a) s'
      | (none, s') => (none, s') := by
  induction c generalizing s with
  | done a => rfl
  | ask e next ih =>
    rw [Program.ask_bind, runOn_ask, runOn_ask]
    rcases e.meet s with ⟨_ | b, s'⟩
    · rfl
    · exact ih b s'

/-- **What comes behind a success is run**, and a failure is the end. -/
theorem runOn_andThen (first : Call (Outcome α)) (next : α → Call (Outcome β)) (s : Course) :
    Call.runOn (andThen first next) s =
      match Call.runOn first s with
      | (some (.ok a), s') => Call.runOn (next a) s'
      | (some (.error f), s') => (some (.error f), s')
      | (none, s') => (none, s') := by
  rw [andThen, runOn_bind]
  rcases Call.runOn first s with ⟨_ | _ | a, s'⟩ <;> rfl

/-- A single request is performed. -/
theorem runOn_request (e : Effect α) (s : Course) : Call.runOn (Program.request e) s = e.meet s := by
  rw [Program.request, runOn_ask]
  rcases e.meet s with ⟨_ | b, s'⟩ <;> rfl

/-- Asking for the token changes nothing. -/
theorem runOn_isCancelled (s : Course) :
    Call.runOn (Program.request .isCancelled) s = (some s.isCancelled, s.idle) := by
  rw [runOn_request]
  rfl

/-- A read is given up if the token is cancelled by then. -/
theorem runOn_cancellable (c : Call (Outcome α)) (s : Course) :
    Call.runOn (cancellable c) s =
      if s.isCancelled then (some (.error .cancelled), s.idle) else Call.runOn c s.idle := by
  rw [cancellable, runOn_bind, runOn_isCancelled]
  dsimp only
  split <;> rfl

/-- And a write is not started. -/
theorem runOn_committing (write : Call (Outcome α)) (s : Course) :
    Call.runOn (committing write) s =
      if s.isCancelled then (some (.error .cancelled), s.idle) else Call.runOn write s.idle :=
  runOn_cancellable write s

/-- **A computation of the vault is run as if it were alone**, whatever becomes of the token. -/
theorem runOn_lift (c : Vault.Call α) (s : Course) :
    ∃ s', Call.runOn (Program.lift Effect.vault c) s = (some (c.runOn s.vault).1, s') ∧
      s'.vault = (c.runOn s.vault).2 ∧ s'.world.registry = s.world.registry := by
  induction c generalizing s with
  | done a => exact ⟨s, rfl, rfl, rfl⟩
  | ask e next ih =>
    let behind := s.behind { s.next with vault := (e.meet s.vault).2.world }
    have hmeet : (Effect.vault e).meet s = (some (e.meet s.vault).1, behind) := rfl
    rw [Program.lift, runOn_ask, hmeet]
    exact ih (e.meet s.vault).1 behind

theorem runOn_ofVault (c : Vault.Call (Except Vault.Fault α)) (s : Course) :
    ∃ s', Call.runOn (ofVault c) s =
        (some ((c.runOn s.vault).1.mapError Vault.Fault.toGateway), s') ∧
      s'.vault = (c.runOn s.vault).2 ∧ s'.world.registry = s.world.registry := by
  obtain ⟨s', hrun, hvault, hregistry⟩ := runOn_lift c s
  refine ⟨s', ?_, hvault, hregistry⟩
  rw [ofVault, runOn_bind, hrun]
  rfl

end FiscalGateway.Gateway
