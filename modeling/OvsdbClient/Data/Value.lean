import OvsdbClient.Collection.SortedSet
import OvsdbClient.Data.Atom

/-!
# Column values

A column holds an atom, a set of atoms, or a map from strings to strings.
-/

namespace OvsdbClient

/-- The value of a column. -/
inductive Value where
  | atom (value : Atom)
  | set (members : SortedSet Atom)
  | map (entries : SortedMap String String)
deriving DecidableEq, Inhabited

namespace Value

def asAtom? : Value → Option Atom
  | .atom value => some value
  | _ => none

def asInteger? : Value → Option Int
  | .atom (.integer value) => some value
  | _ => none

def asString? : Value → Option String
  | .atom (.string value) => some value
  | _ => none

def asUuid? : Value → Option Uuid
  | .atom (.uuid value) => some value
  | _ => none

def asSet? : Value → Option (SortedSet Atom)
  | .set members => some members
  | _ => none

def asMap? : Value → Option (SortedMap String String)
  | .map entries => some entries
  | _ => none

def holds (value : Value) (atom : Atom) : Bool :=
  match value with
  | .atom found => found = atom
  | .set members => members.contains atom
  | .map _ => false

def mapJson (entries : SortedMap String String) : Json :=
  .record (entries.toList.map fun (key, value) => (key, .string value))

def setJson (members : SortedSet Atom) : Json :=
  .list (members.toList.map Atom.toJson)

def toJson : Value → Json
  | .atom value => .record [("atom", value.toJson)]
  | .set members => .record [("set", setJson members)]
  | .map entries => .record [("map", mapJson entries)]

def decoder : Json.Decoder Value :=
  .tagged [
    ("atom", .map Value.atom Atom.decoder),
    ("set", .map (fun atoms => Value.set (.ofList atoms))
      (Json.Decoder.items Atom.decoder)),
    ("map", .map Value.map (Json.Decoder.table Json.Decoder.string))]

end Value

end OvsdbClient
