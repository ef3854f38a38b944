/-!
# Numerals

Digits in a base, and decimal numerals with an upper bound.
-/

namespace OvsdbClient.Text

/-- The value of a digit in `base`, where letters of either case count on from
ten. -/
def digit? (base : Nat) (char : Char) : Option Nat :=
  let value :=
    if '0' ≤ char ∧ char ≤ '9' then some (char.toNat - '0'.toNat)
    else if 'a' ≤ char ∧ char ≤ 'z' then some (char.toNat - 'a'.toNat + 10)
    else if 'A' ≤ char ∧ char ≤ 'Z' then some (char.toNat - 'A'.toNat + 10)
    else none
  value.filter (· < base)

/-- The number that a sequence of digits in `base` denotes; anything else is
refused. -/
def digits? (base : Nat) (text : List Char) : Option Nat :=
  text.foldl
    (fun total char => do return (← total) * base + (← digit? base char))
    (some 0)

/-- Reads a decimal numeral of at most `limit`: one plus sign may precede the
digits, of which there is at least one, and leading zeros are harmless. -/
def numeral? (limit : Nat) (text : List Char) : Option Nat :=
  let digits :=
    match text with
    | '+' :: rest => rest
    | _ => text
  if digits.isEmpty then none else (digits? 10 digits).filter (· ≤ limit)

/-- Writes `number` with exactly `width` lower-case hexadecimal digits, the
lowest ones. -/
def hexDigits : (width : Nat) → (number : Nat) → List Char
  | 0, _ => []
  | width + 1, number =>
      hexDigits width (number / 16) ++ [Nat.digitChar (number % 16)]

/-- Writes a number in hexadecimal without leading zeros. -/
def hexNumeral (number : Nat) : String :=
  String.ofList (Nat.toDigits 16 number)

end OvsdbClient.Text
