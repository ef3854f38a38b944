import OvsdbClient.Address.Ip
import OvsdbClient.Fault
import OvsdbClient.Text.Blank
import OvsdbClient.Text.Cut

/-!
# Bracketed addresses

Map columns are keyed by addresses in which IPv6 addresses stand in square
brackets, so that a value `port:address` can be cut at its first colon.  A
network length may follow the address.
-/

namespace OvsdbClient.Address

/-- An address with an optional network length, taken apart: the address and its
text as given. -/
structure Spelled where
  address : IpAddress
  bare : List Char
deriving DecidableEq

/-- An address as stored: bracketed exactly if it is an IPv6 address. -/
def Spelled.stored (spelled : Spelled) : List Char :=
  if spelled.address.isV6 then '[' :: spelled.bare ++ [']'] else spelled.bare

/-- The text of an address without surrounding blanks and without one pair of
brackets. -/
def bareOf (text : List Char) : List Char :=
  Text.unbracket (Text.trim text)

/-- Reads an address that has no brackets, with an optional network length that
fits its family. -/
def ofBare? (bare : List Char) : Option Spelled :=
  match Text.cut? '/' bare with
  | none => (IpAddress.ofChars? bare).map (⟨·, bare⟩)
  | some (host, length) => do
      let address ← IpAddress.ofChars? host
      let _ ← Text.numeral? address.maxNetworkLength length
      return ⟨address, bare⟩

/-- The stored form of an address, given with or without brackets and
surrounding blanks. -/
def bracketed (address : String) : Except Fault String :=
  match ofBare? (bareOf address.toList) with
  | some spelled => .ok (String.ofList spelled.stored)
  | none => .error (.invalidAddress address)

/-- A stored address without its brackets. -/
def unbracketed (address : String) : String :=
  String.ofList (Text.unbracket address.toList)

end OvsdbClient.Address
