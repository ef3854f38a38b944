import OvsdbClient.Json.Decoder

/-!
# Spans of time

A span is a whole number of nanoseconds.  It is shown in the largest unit in
which it is at least one, exactly and without trailing zeros.
-/

namespace OvsdbClient

/-- A length of time in nanoseconds. -/
structure Span where
  nanos : Nat
deriving DecidableEq, Inhabited

open Json (Decoder)
open Json.Decoder (Field)

namespace Span

def zero : Span := ⟨0⟩

def ofSecs (secs : Nat) : Span := ⟨secs * 1000000000⟩

def ofMillis (millis : Nat) : Span := ⟨millis * 1000000⟩

def secs (span : Span) : Nat := span.nanos / 1000000000

def subsecNanos (span : Span) : Nat := span.nanos % 1000000000

def millis (span : Span) : Nat := span.nanos / 1000000

/-- The least number of milliseconds that covers a span. -/
def ceilMillis (span : Span) : Nat := (span.nanos + 999999) / 1000000

/-- The decimal places after the point of `part / 10 ^ places`, without trailing
zeros. -/
def fraction : (places : Nat) → (part : Nat) → List Char
  | 0, _ => []
  | places + 1, part =>
      if part = 0 then []
      else
        let unit := Nat.pow 10 places
        Nat.digitChar (part / unit) :: fraction places (part % unit)

/-- `whole` and the fraction `part / 10 ^ places` in decimal, followed by a
unit. -/
def decimal (whole part places : Nat) (unit : String) : String :=
  let shown :=
    if part = 0 then "" else "." ++ String.ofList (fraction places part)
  toString whole ++ shown ++ unit

/-- A span in the largest of seconds, milliseconds, microseconds and nanoseconds
that it reaches. -/
def text (span : Span) : String :=
  if 1000000000 ≤ span.nanos then
    decimal span.secs span.subsecNanos 9 "s"
  else if 1000000 ≤ span.nanos then
    decimal span.millis (span.nanos % 1000000) 6 "ms"
  else if 1000 ≤ span.nanos then
    decimal (span.nanos / 1000) (span.nanos % 1000) 3 "µs"
  else
    decimal span.nanos 0 0 "ns"

def toJson (span : Span) : Json :=
  .record [("secs", .nat span.secs), ("nanos", .nat span.subsecNanos)]

structure Draft where
  secs : Option Nat := none
  nanos : Option Nat := none

/-- Reads a span given by seconds and nanoseconds, or by milliseconds alone. -/
def decoder : Decoder Span
  | place, .int millis =>
      Decoder.map ofMillis Decoder.unsigned64 place (.int millis)
  | place, json => do
      let fields := [
        Field.of "secs" Draft.secs
          (fun draft secs => { draft with secs }) Decoder.unsigned64,
        Field.of "nanos" Draft.nanos
          (fun draft nanos => { draft with nanos }) Decoder.unsigned32]
      let draft ← Decoder.record fields {} place json
      let secs ← Decoder.required draft.secs
      let nanos ← Decoder.required draft.nanos
      return ⟨secs * 1000000000 + nanos⟩

end Span

end OvsdbClient
