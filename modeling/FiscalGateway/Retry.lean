import FiscalGateway.Number.Binary64

/-!
# Retrying with growing delays

An attempt that may fail for a passing cause is made again after a delay. The delay grows by a
factor from one attempt to the next up to a limit, and the number of attempts is bounded. The
attempts and the waits are those of any monad, so the rule is the same for a script as for a store.
-/

namespace FiscalGateway

/-- How often and after which delays an attempt is made again. -/
structure RetryPolicy where
  /-- The most attempts; at least one is made. -/
  maxAttempts : Nat
  /-- The first delay in microseconds, of which whole milliseconds count. -/
  initialMicros : Nat
  /-- The longest delay in milliseconds. -/
  maxMillis : Nat
  /-- The factor by which the delay grows. -/
  multiplier : Number.Binary64
  deriving DecidableEq, Repr

namespace RetryPolicy

/-- Eight attempts with delays that double from 10 to at most 200 milliseconds. -/
def standard : RetryPolicy := ⟨8, 10000, 200, .ofNat 2⟩

/-- The standard delays with another number of attempts. -/
def withMaxAttempts (n : Nat) : RetryPolicy := { standard with maxAttempts := n }

/-- The highest power of the factor that is formed. -/
def maxPower : Nat := 1 <<< 31 - 1

/-- The delay in milliseconds after attempt `k`, counted from zero. -/
def delay (p : RetryPolicy) (k : Nat) : Nat :=
  let exact := (Number.Binary64.ofNat (p.initialMicros / 1000)).mul
    (p.multiplier.pow (min k maxPower))
  min exact.toWord p.maxMillis

end RetryPolicy

/-- Why a retried operation failed. -/
inductive RetryFault (ε : Type) where
  /-- All attempts failed for passing causes. -/
  | exhausted (attempts : Nat) (last : ε)
  /-- An attempt failed for a cause that does not pass. -/
  | aborted (cause : ε)
  deriving DecidableEq, Repr

/-- The wording of a failure, given that of the causes. -/
def RetryFault.message (text : ε → String) : RetryFault ε → String
  | exhausted attempts last => "gave up after " ++ toString attempts ++ " attempts: " ++ text last
  | aborted cause => text cause

/-- Makes attempt `k`, and up to `left` more as long as the cause of failure passes. -/
def retryFrom {m : Type → Type u} [Monad m] (policy : RetryPolicy) (passing : ε → Bool)
    (attempt : m (Except ε α)) (sleep : Nat → m Unit) (k : Nat) :
    (left : Nat) → m (Except (RetryFault ε) α)
  | 0 => attempt >>= fun
    | .ok a => pure (.ok a)
    | .error e => pure (.error (if passing e then .exhausted (k + 1) e else .aborted e))
  | left + 1 => attempt >>= fun
    | .ok a => pure (.ok a)
    | .error e =>
      if passing e then
        sleep (policy.delay k) >>= fun _ => retryFrom policy passing attempt sleep (k + 1) left
      else pure (.error (.aborted e))

/-- Makes attempts as the policy says. -/
def retry {m : Type → Type u} [Monad m] (policy : RetryPolicy) (passing : ε → Bool)
    (attempt : m (Except ε α)) (sleep : Nat → m Unit) : m (Except (RetryFault ε) α) :=
  retryFrom policy passing attempt sleep 0 (policy.maxAttempts - 1)

/-- A run over a script of outcomes: the outcomes still to come and the times of the calls so far,
in milliseconds, the latest first. -/
structure RetryTrace (ε α : Type) where
  script : Nat → Except ε α
  clock : Nat
  calls : List Nat

/-- The next outcome of the script. -/
def RetryTrace.attempt : StateM (RetryTrace ε α) (Except ε α) := fun t =>
  (t.script t.calls.length, { t with calls := t.clock :: t.calls })

/-- Lets time pass. -/
def RetryTrace.sleep (milliseconds : Nat) : StateM (RetryTrace ε α) Unit :=
  modify fun t => { t with clock := t.clock + milliseconds }

/-- The outcome of a script and the times of the calls in order. -/
def retryScript (policy : RetryPolicy) (passing : ε → Bool) (script : Nat → Except ε α) :
    Except (RetryFault ε) α × List Nat :=
  let (outcome, trace) := retry policy passing RetryTrace.attempt RetryTrace.sleep |>.run ⟨script, 0, []⟩
  (outcome, trace.calls.reverse)

end FiscalGateway
