import OvsdbClient.Retry.Run

/-!
# Scripted attempts

A script says beforehand what attempts answer and how long they take.  Retrying
by a script shows when attempts are begun and how long is waited between them;
each wait can be told of before it begins.
-/

namespace OvsdbClient

/-- The operation, telling of every wait before it begins: what failed, how long
the wait will be, and what time it is. -/
def Retriable.notifying {σ α ν : Type} (operation : Retriable σ α)
    (notify : Fault → Span → Nat → ν → ν) : Retriable (σ × ν) α where
  clock state := operation.clock state.1
  attempt state :=
    let (answer, after) := operation.attempt state.1
    (answer, after, state.2)
  pause fault delay state :=
    (operation.pause fault delay state.1,
      notify fault delay (operation.clock state.1) state.2)

/-- What attempts answer, and how many milliseconds each of them takes. -/
structure Script (α : Type) where
  answer : Nat → Except Fault α
  millis : Nat → Nat

namespace Script

variable {α ν : Type}

/-- How far a script was followed: the time, the times at which attempts were
begun, and the waits between them, first ones first. -/
structure Trial where
  clock : Nat
  begun : List Nat
  waits : List Span
deriving DecidableEq

/-- Nothing was attempted yet. -/
def Trial.fresh (now : Nat) : Trial := ⟨now, [], []⟩

/-- Attempts and waits as a script has them. -/
def operation (script : Script α) : Retriable Trial α where
  clock := Trial.clock
  attempt trial :=
    let number := trial.begun.length
    (script.answer number,
      { trial with
        clock := trial.clock + script.millis number
        begun := trial.begun ++ [trial.clock] })
  pause _ delay trial :=
    { trial with
      clock := trial.clock + delay.ceilMillis
      waits := trial.waits ++ [delay] }

/-- Attempts what a script says as often as a policy allows. -/
def retry? (script : Script α) (policy : RetryPolicy)
    (retryable : Fault → Bool) (fuel now : Nat) (draws : Draws := .zero) :
    Option (Except Fault α × Trial) :=
  script.operation.run? policy retryable fuel (.fresh now) draws

/-- Likewise, telling of every wait before it begins. -/
def retryNotify? (script : Script α) (policy : RetryPolicy)
    (retryable : Fault → Bool) (notify : Fault → Span → Nat → ν → ν)
    (fuel now : Nat) (seen : ν) (draws : Draws := .zero) :
    Option (Except Fault α × Trial × ν) :=
  (script.operation.notifying notify).run? policy retryable fuel
    (.fresh now, seen) draws

end Script

end OvsdbClient
