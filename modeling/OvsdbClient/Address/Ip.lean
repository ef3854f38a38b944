import OvsdbClient.Text.Numeral

/-!
# IP addresses

The textual forms of IPv4 and IPv6 addresses and the numbers they denote.
Octets have no leading zeros, groups have one to four hexadecimal digits, a
double colon stands for at least one group, and the last two groups may be
written as an IPv4 address.
-/

namespace OvsdbClient

/-- An IP address of either family. -/
inductive IpAddress where
  | v4 (bits : BitVec 32)
  | v6 (bits : BitVec 128)
deriving DecidableEq, Inhabited

namespace IpAddress

def isV6 : IpAddress → Bool
  | .v4 _ => false
  | .v6 _ => true

/-- The longest network part of an address of its family. -/
def maxNetworkLength : IpAddress → Nat
  | .v4 _ => 32
  | .v6 _ => 128

def isHexDigit (char : Char) : Bool := (Text.digit? 16 char).isSome

/-- Reads an octet: one to three decimal digits, without a leading zero, up to
255. -/
def readOctet? (text : List Char) : Option (Nat × List Char) := do
  let digits := text.takeWhile Char.isDigit
  guard (digits ≠ [] ∧ digits.length ≤ 3)
  guard (digits.head? ≠ some '0' ∨ digits.length = 1)
  let value ← Text.digits? 10 digits
  guard (value ≤ 255)
  return (value, text.dropWhile Char.isDigit)

/-- Reads `count` further octets, each after a dot, as the low end of a
number. -/
def readOctets? : (count number : Nat) → List Char → Option (Nat × List Char)
  | 0, number, text => some (number, text)
  | count + 1, number, '.' :: text => do
      let (octet, text) ← readOctet? text
      readOctets? count (number * 256 + octet) text
  | _ + 1, _, _ => none

/-- Reads an IPv4 address at the start of a text, as a number. -/
def readV4? (text : List Char) : Option (Nat × List Char) := do
  let (octet, text) ← readOctet? text
  readOctets? 3 octet text

/-- Reads a group: one to four hexadecimal digits. -/
def readGroup? (text : List Char) : Option (Nat × List Char) := do
  let digits := text.takeWhile isHexDigit
  guard (digits ≠ [] ∧ digits.length ≤ 4)
  return (← Text.digits? 16 digits, text.dropWhile isHexDigit)

/-- A run of groups, whether an IPv4 address ended it, and the text after it. -/
structure Groups where
  groups : List Nat
  embedded : Bool
  rest : List Char

/-- Reads as many groups as there are, `room` at most, with colons between them.
An IPv4 address counts as two groups and is the last one. -/
def readGroups : (room : Nat) → (first : Bool) → List Char → Groups
  | 0, _, text => ⟨[], false, text⟩
  | room + 1, first, text =>
      match if first then some text else text.head?.bind fun mark =>
          if mark = ':' then some text.tail else none with
      | none => ⟨[], false, text⟩
      | some body =>
          match if room = 0 then none else readV4? body with
          | some (number, rest) =>
              ⟨[number / 65536, number % 65536], true, rest⟩
          | none =>
              match readGroup? body with
              | some (group, rest) =>
                  let later := readGroups room false rest
                  { later with groups := group :: later.groups }
              | none => ⟨[], false, text⟩

/-- The number that eight groups denote. -/
def ofGroups (groups : List Nat) : IpAddress :=
  let number := groups.foldl (fun number group => number * 65536 + group) 0
  .v6 (BitVec.ofNat 128 number)

/-- Reads an IPv6 address at the start of a text. -/
def readV6? (text : List Char) : Option (IpAddress × List Char) :=
  let front := readGroups 8 true text
  if front.groups.length = 8 then
    some (ofGroups front.groups, front.rest)
  else if front.embedded then
    none
  else
    match front.rest with
    | ':' :: ':' :: rest =>
        let back := readGroups (7 - front.groups.length) true rest
        let gap := 8 - front.groups.length - back.groups.length
        let groups := front.groups ++ List.replicate gap 0 ++ back.groups
        some (ofGroups groups, back.rest)
    | _ => none

/-- The address that a text denotes as a whole. -/
def ofChars? (text : List Char) : Option IpAddress :=
  match readV4? text with
  | some (number, rest) =>
      if rest.isEmpty then some (.v4 (BitVec.ofNat 32 number)) else none
  | none =>
      match readV6? text with
      | some (address, rest) => if rest.isEmpty then some address else none
      | none => none

end IpAddress

end OvsdbClient
