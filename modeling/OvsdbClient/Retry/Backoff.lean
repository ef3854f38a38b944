import OvsdbClient.Retry.Policy

/-!
# Backoff

The sequence of waits that a policy prescribes, given what its randomization
draws.  Intervals grow in binary64 arithmetic on nanoseconds and are cut to
whole nanoseconds.
-/

namespace OvsdbClient

namespace Span

/-- The nanoseconds of a span as a binary64 number. -/
def toFloat (span : Span) : Float :=
  Float.ofNat span.secs * 1e9 + Float.ofNat span.subsecNanos

/-- The span of a number of nanoseconds, cut to whole ones; negative numbers
give no time.  Seconds and nanoseconds are cut apart, each to 64 bits. -/
def ofFloat (nanos : Float) : Span :=
  let secs := (nanos / 1e9).toUInt64.toNat
  ⟨secs * 1000000000 + nanos.toUInt64.toNat % 1000000000⟩

end Span

/-- A number that a randomization draws, from 0 up to 1. -/
structure Draw where
  number : Float
  least : 0.0 ≤ number
  below : number < 1.0

/-- What a randomization draws, one number after another. -/
abbrev Draws := Nat → Draw

/-- Nothing but zeros is drawn. -/
def Draws.zero : Draws := fun _ => ⟨0.0, by decide +kernel, by decide +kernel⟩

/-- The interval after another: the longest one, if multiplying would reach
it. -/
def RetryPolicy.grown (policy : RetryPolicy) (interval : Span) : Span :=
  let longest := Span.ofMillis policy.maxMillis
  if interval.toFloat ≥ longest.toFloat / policy.multiplier then
    longest
  else
    Span.ofFloat (interval.toFloat * policy.multiplier)

/-- The state of a backoff: the next interval, when the budget began to run, in
milliseconds, and what is drawn, with how much of it was used. -/
structure Backoff where
  policy : RetryPolicy
  interval : Span
  start : Nat
  draws : Draws
  used : Nat

namespace Backoff

/-- The backoff of a policy that begins at a time. -/
def begin (policy : RetryPolicy) (now : Nat) (draws : Draws := .zero) :
    Backoff :=
  ⟨policy, Span.ofMillis policy.initialMillis, now, draws, 0⟩

/-- The wait that the current interval gives: as far up the range of the
randomization as is drawn.  A range that is too wide for binary64 gives no
wait. -/
def wait (backoff : Backoff) : Span :=
  let interval := backoff.interval.toFloat
  let spread := backoff.policy.randomization * interval
  let lowest := interval - spread
  let highest := interval + spread
  let draw := (backoff.draws backoff.used).number
  Span.ofFloat (lowest + draw * (highest - lowest + 1.0))

/-- The next wait, or nothing if the budget is spent or would be overrun. -/
def next (backoff : Backoff) (now : Nat) : Option Span × Backoff :=
  let elapsed := Span.ofMillis (now - backoff.start)
  let later := { backoff with
    interval := backoff.policy.grown backoff.interval
    used := backoff.used + 1 }
  match backoff.policy.maxElapsed? with
  | none => (some backoff.wait, later)
  | some budget =>
      if budget.nanos < elapsed.nanos then
        (none, backoff)
      else if elapsed.nanos + backoff.wait.nanos ≤ budget.nanos then
        (some backoff.wait, later)
      else
        (none, later)

end Backoff

end OvsdbClient
