import OvsdbClient.Retry.Backoff

/-!
# Retrying

An operation is attempted until it succeeds, fails for good, or the backoff
yields no further wait.
-/

namespace OvsdbClient

/-- An operation that can be attempted again in a state that changes: what time
it is, one attempt, and a wait after an attempt failed. -/
structure Retriable (σ α : Type) where
  clock : σ → Nat
  attempt : σ → Except Fault α × σ
  pause : Fault → Span → σ → σ

namespace Retriable

variable {σ α : Type}

/-- Attempts on with a backoff, or nothing if `fuel` attempts do not finish. -/
def continue? (operation : Retriable σ α) (retryable : Fault → Bool) :
    (fuel : Nat) → Backoff → σ → Option (Except Fault α × σ)
  | 0, _, _ => none
  | fuel + 1, backoff, state =>
      match operation.attempt state with
      | (.ok value, state) => some (.ok value, state)
      | (.error fault, state) =>
          if retryable fault then
            match backoff.next (operation.clock state) with
            | (some delay, backoff) =>
                let state := operation.pause fault delay state
                operation.continue? retryable fuel backoff state
            | (none, _) => some (.error fault, state)
          else
            some (.error fault, state)

/-- Attempts an operation as a policy says, retrying the faults that `retryable`
accepts. -/
def run? (operation : Retriable σ α) (policy : RetryPolicy)
    (retryable : Fault → Bool) (fuel : Nat) (state : σ)
    (draws : Draws := .zero) : Option (Except Fault α × σ) :=
  let backoff := Backoff.begin policy (operation.clock state) draws
  operation.continue? retryable fuel backoff state

end Retriable

end OvsdbClient
