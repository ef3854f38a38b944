import OvsdbClient.Json.Basic
import OvsdbClient.Word

/-!
# JSON numbers

A numeral without fraction and exponent that fits 64 bits, signed or unsigned,
is an integer; every other one is a binary64 number.  Of a long numeral the
digits count that fit an unsigned 64-bit significand, which is then scaled by
one power of ten.
-/

namespace OvsdbClient.Json

/-- The parts of a numeral: the digits before and after the point, and the
exponent's sign and digits. -/
structure Numeral where
  negative : Bool
  whole : List Nat
  fraction : Option (List Nat)
  exponent : Option (Bool × List Nat)

namespace Numeral

/-- Exponents beyond this one are too large to tell apart. -/
def largestPower : Nat := 2147483647

/-- Reads digits on into a significand while it stays in bounds, and returns the
digits left over. -/
def absorb (significand : Nat) : List Nat → Nat × List Nat
  | [] => (significand, [])
  | digit :: digits =>
      let next := significand * 10 + digit
      if next ≤ maxUnsigned64 then absorb next digits
      else (significand, digit :: digits)

/-- `significand * 10 ^ exponent` in binary64, by one multiplication or
division; nothing if it is too large.  Tiny numbers are first scaled down by the
largest power of ten, which leaves nothing of any 64-bit significand after three
`rounds`. -/
def scaled (significand : Float) (exponent : Int) :
    (rounds : Nat) → Option Float
  | 0 => some significand
  | rounds + 1 =>
      if exponent.natAbs ≤ 308 then
        let power := Float.ofScientific 1 false exponent.natAbs
        if 0 ≤ exponent then
          let product := significand * power
          if product.isInf then none else some product
        else
          some (significand / power)
      else if significand == 0.0 then
        some significand
      else if 0 ≤ exponent then
        none
      else
        scaled (significand / 1e308) (exponent + 308) rounds

/-- The number that a numeral denotes, or nothing if it is too large. -/
def value? (numeral : Numeral) : Option Json :=
  let sign (number : Float) : Json :=
    .float (if numeral.negative then -number else number)
  let (whole, beyond) := absorb 0 numeral.whole
  match numeral.fraction, numeral.exponent, beyond with
  | none, none, [] =>
      if numeral.negative then
        if whole ≠ 0 ∧ minSigned64 ≤ -whole then
          some (.int (-whole))
        else
          some (sign (Float.ofNat whole))
      else
        some (.int whole)
  | fraction, exponent, beyond =>
      let places := fraction.getD []
      let (significand, unused) := absorb whole places
      let used : Nat := places.length - unused.length
      let shift := (beyond.length : Int) - (used : Int)
      match exponent with
      | none => (scaled (Float.ofNat significand) shift 4).map sign
      | some (down, digits) =>
          let power := digits.foldl (fun power digit => power * 10 + digit) 0
          if power ≤ largestPower then
            let exponent :=
              if down then shift - Int.ofNat power else shift + Int.ofNat power
            (scaled (Float.ofNat significand) exponent 4).map sign
          else if significand ≠ 0 ∧ ¬ down then
            none
          else
            some (sign 0.0)

end Numeral

/-- The digits at the start of a text, and the rest. -/
def digitsOf (text : List Char) : List Nat × List Char :=
  let digits := text.takeWhile Char.isDigit
  (digits.map fun char => char.toNat - '0'.toNat, text.dropWhile Char.isDigit)

/-- A place where a digit is missing: reading tells the end of the text from a
wrong character, skipping does not. -/
def noDigit (rest : List Char) : Json × Option (List Char) :=
  let read := if rest.isEmpty then Fault.truncated else .malformed
  (.broken read (some .malformed), none)

/-- Reads a numeral that `negative` says had a minus sign, and returns what
follows it, if the text can be read on. -/
def readNumber (negative : Bool) (text : List Char) :
    Json × Option (List Char) :=
  let finish (numeral : Numeral) (rest : List Char) :
      Json × Option (List Char) :=
    match numeral.value? with
    | some number => (number, some rest)
    | none => (.broken .malformed none, some rest)
  let readExponent (whole : List Nat) (fraction : Option (List Nat))
      (text : List Char) :=
    match text with
    | mark :: rest =>
        if mark = 'e' ∨ mark = 'E' then
          let (down, rest) :=
            match rest with
            | '-' :: rest => (true, rest)
            | '+' :: rest => (false, rest)
            | _ => (false, rest)
          match digitsOf rest with
          | ([], rest) => noDigit rest
          | (digits, rest) =>
              finish ⟨negative, whole, fraction, some (down, digits)⟩ rest
        else
          finish ⟨negative, whole, fraction, none⟩ text
    | [] => finish ⟨negative, whole, fraction, none⟩ text
  match digitsOf text with
  | ([], rest) => noDigit rest
  | (0 :: _ :: _, _) => (.broken .malformed (some .malformed), none)
  | (whole, '.' :: rest) =>
      match digitsOf rest with
      | ([], rest) => noDigit rest
      | (places, rest) => readExponent whole (some places) rest
  | (whole, rest) => readExponent whole none rest

end OvsdbClient.Json
