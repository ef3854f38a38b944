import OvsdbClient.Text.Cut
import OvsdbClient.Text.Numeral

/-!
# Row identifiers

Rows are identified by 128-bit numbers.  They are written as five groups of
lower-case hexadecimal digits, and read in that form, undivided, in braces, or
as a URN, in either case.
-/

namespace OvsdbClient

/-- A universally unique identifier. -/
@[ext]
structure Uuid where
  bits : BitVec 128
deriving DecidableEq, Inhabited

namespace Uuid

/-- Identifiers are ordered as numbers, which is the order of their texts. -/
instance : Ord Uuid := ⟨fun left right => compare left.bits right.bits⟩

instance : Std.TransOrd Uuid where
  eq_swap {left right} :=
    @Std.OrientedCmp.eq_swap _ compare _ left.bits right.bits
  isLE_trans {first second third} :=
    @Std.TransCmp.isLE_trans _ compare _ first.bits second.bits third.bits

instance : Std.LawfulEqOrd Uuid where
  compare_self {uuid} := @Std.ReflCmp.compare_self _ compare _ uuid.bits
  eq_of_compare equal :=
    Uuid.ext (Std.LawfulEqOrd.eq_of_compare (α := BitVec 128) equal)

/-- The identifier that is all zero. -/
def nil : Uuid := ⟨0⟩

/-- The identifier with the given number, taken modulo 2 to the 128. -/
def ofNat (number : Nat) : Uuid := ⟨BitVec.ofNat 128 number⟩

/-- The identifier drawn at the `count`-th draw: a version 4 identifier whose
last group is the count and whose first one scatters it. -/
def drawn (count : Nat) : Uuid :=
  let scattered := count * 0x9E3779B1 % 0x100000000
  let low := count % 0x1000000000000
  ofNat (scattered <<< 96 + 0x4000 <<< 64 + 0x8000 <<< 48 + low)

def text (uuid : Uuid) : String :=
  let number := uuid.bits.toNat
  let group (shift width : Nat) := Text.hexDigits width (number >>> shift)
  let groups := [group 96 8, group 80 4, group 64 4, group 48 4, group 0 12]
  String.ofList (List.intercalate ['-'] groups)

/-- The identifier written as hexadecimal digits only. -/
def ofDigits? (digits : List Char) : Option Uuid :=
  (Text.digits? 16 digits).map ofNat

/-- The identifier written as five groups of digits with hyphens between
them. -/
def ofHyphenated? (text : List Char) : Option Uuid :=
  let groups := Text.fields '-' text
  if groups.map List.length = [8, 4, 4, 4, 12] then ofDigits? groups.flatten
  else none

/-- Reads an identifier in any of its written forms. -/
def ofText? (text : String) : Option Uuid :=
  let chars := text.toList
  if chars.length = 32 then
    ofDigits? chars
  else if chars.length = 36 then
    ofHyphenated? chars
  else if chars.length = 38 ∧ chars.head? = some '\x7b' ∧
      chars.getLast? = some '\x7d' then
    ofHyphenated? (chars.drop 1).dropLast
  else if chars.length = 45 ∧
      (chars.take 9).map Char.toLower = "urn:uuid:".toList then
    ofHyphenated? (chars.drop 9)
  else
    none

end Uuid

end OvsdbClient
