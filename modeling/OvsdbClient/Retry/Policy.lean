import OvsdbClient.Json.Decoder
import OvsdbClient.Settings.Objection
import OvsdbClient.Text.Numeral

/-!
# Retry policies

How long to wait between attempts, and how long to keep trying.
-/

namespace OvsdbClient

open Json (Decoder)
open Json.Decoder (Field)

/-- The shape of the waits between attempts and the total budget, without which
attempts never end. -/
structure RetryPolicy where
  initialMillis : Nat
  maxMillis : Nat
  multiplier : Float
  randomization : Float
  maxElapsedMillis : Option Nat
deriving Inhabited

namespace RetryPolicy

/-- Waiting for a server: one second at first, doubling up to three minutes,
without end. -/
def bootstrap : RetryPolicy := ⟨1000, 180000, 2.0, 0.0, none⟩

/-- Waiting for a row: one second at first, doubling, ten seconds in all. -/
def rowVisibility : RetryPolicy := ⟨1000, 10000, 2.0, 0.0, some 10000⟩

/-- The whole milliseconds of a span, the largest 64-bit number standing for
more. -/
def boundedMillis (span : Span) : Nat := min span.millis maxUnsigned64

/-- The policy with another first interval. -/
def withInitial (policy : RetryPolicy) (interval : Span) : RetryPolicy :=
  { policy with initialMillis := boundedMillis interval }

/-- The policy with another budget. -/
def withMaxElapsed (policy : RetryPolicy) (budget : Option Span) :
    RetryPolicy :=
  { policy with maxElapsedMillis := budget.map boundedMillis }

/-- The budget. -/
def maxElapsed? (policy : RetryPolicy) : Option Span :=
  policy.maxElapsedMillis.map Span.ofMillis

def validate (policy : RetryPolicy) : Except Objection Unit :=
  if policy.initialMillis = 0 then .error .zeroInitialInterval
  else if policy.maxMillis < policy.initialMillis then .error .intervalsShrink
  else if policy.multiplier < 1.0 then .error .multiplierBelowOne
  else if 0.0 ≤ policy.randomization ∧ policy.randomization < 1.0 then .ok ()
  else .error .randomizationOutOfRange

structure Draft where
  initial : Option Nat := none
  max : Option Nat := none
  multiplier : Option Float := none
  randomization : Option Float := none
  maxElapsed : Option (Option Nat) := none

/-- Reads a policy; without a randomization there is none, and without a budget
no end. -/
def decoder : Decoder RetryPolicy := fun place json => do
  let fields := [
    Field.of "initial_interval_ms" Draft.initial
      (fun draft initial => { draft with initial }) Decoder.unsigned64,
    Field.of "max_interval_ms" Draft.max
      (fun draft max => { draft with max }) Decoder.unsigned64,
    Field.of "multiplier" Draft.multiplier
      (fun draft multiplier => { draft with multiplier }) Decoder.float,
    Field.of "randomization_factor" Draft.randomization
      (fun draft randomization => { draft with randomization }) Decoder.float,
    Field.of "max_elapsed_ms" Draft.maxElapsed
      (fun draft maxElapsed => { draft with maxElapsed })
      (.optional Decoder.unsigned64)]
  let draft ← Decoder.record fields {} place json
  return {
    initialMillis := ← Decoder.required draft.initial
    maxMillis := ← Decoder.required draft.max
    multiplier := ← Decoder.required draft.multiplier
    randomization := draft.randomization.getD 0.0
    maxElapsedMillis := draft.maxElapsed.getD none }

/-- The bits of a number in hexadecimal. -/
def bitsJson (number : Float) : Json :=
  .string (String.ofList (Text.hexDigits 16 number.toBits.toNat))

/-- The JSON form of a policy, in which numbers that are not whole are given by
their bits. -/
def toJson (policy : RetryPolicy) : Json :=
  .record [("initial_interval_ms", .nat policy.initialMillis),
    ("max_interval_ms", .nat policy.maxMillis),
    ("multiplier", bitsJson policy.multiplier),
    ("randomization_factor", bitsJson policy.randomization),
    ("max_elapsed_ms", .ofOption .nat policy.maxElapsedMillis)]

end RetryPolicy

end OvsdbClient
