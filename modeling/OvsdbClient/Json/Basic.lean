import OvsdbClient.Collection.SortedMap

/-!
# JSON texts

`Json` is a JSON text as far as it can be read: an ordinary tree, in which a
place that cannot be read is marked where it stands.  What is wrong with a text
therefore shows up in the order in which a reader meets it.  A value that is
only skipped is held to less than one that is read, so a mark says what each of
the two meets.
-/

namespace OvsdbClient

namespace Json

/-- Why a JSON text is refused: it breaks the grammar, it has another shape than
asked for, or it stops too early. -/
inductive Fault where
  | malformed
  | mismatch
  | truncated
deriving DecidableEq, Inhabited, Repr

/-- How an array or object ends after its last part: properly, or at a fault. -/
abbrev Ending := Option Fault

end Json

/-- A JSON text, up to the places where it cannot be read. -/
inductive Json where
  | null
  | bool (value : Bool)
  | int (value : Int)
  | float (value : Float)
  | string (value : String)
  | array (items : List Json) (ending : Json.Ending)
  | object (members : List (Json × Json)) (ending : Json.Ending)
  /-- A place that reads as `read`, and is skipped without harm unless `skipped`
  says otherwise. -/
  | broken (read : Json.Fault) (skipped : Option Json.Fault)
deriving Inhabited

namespace Json

def list (items : List Json) : Json := .array items none

def record (members : List (String × Json)) : Json :=
  .object (members.map fun (name, value) => (.string name, value)) none

def nat (value : Nat) : Json := .int value

/-- The value of an optional part, absent parts being null. -/
def ofOption {α : Type} (encode : α → Json) : Option α → Json
  | some value => encode value
  | none => .null

/-- The deepest nesting that is read in a text; only skipped values may nest
deeper. -/
def nestingLimit : Nat := 128

mutual

/-- The first fault that skipping a text meets. -/
def skipFault? : Json → Option Fault
  | .array items ending => skipItems? items ending
  | .object members ending => skipMembers? members ending
  | .broken _ skipped => skipped
  | .null | .bool _ | .int _ | .float _ | .string _ => none

/-- The first fault in skipping the items of an array. -/
def skipItems? : List Json → Ending → Option Fault
  | [], ending => ending
  | item :: items, ending =>
      match skipFault? item with
      | some fault => some fault
      | none => skipItems? items ending

/-- The first fault in skipping the members of an object. -/
def skipMembers? : List (Json × Json) → Ending → Option Fault
  | [], ending => ending
  | (name, value) :: members, ending =>
      match skipFault? name with
      | some fault => some fault
      | none =>
          match skipFault? value with
          | some fault => some fault
          | none => skipMembers? members ending

end

mutual

/-- The first fault that reading a text completely meets, with `depth` levels of
nesting left. -/
def readFault? (depth : Nat) : Json → Option Fault
  | .array items ending =>
      if depth ≤ 1 then some .malformed else readItems? (depth - 1) items ending
  | .object members ending =>
      if depth ≤ 1 then some .malformed
      else readMembers? (depth - 1) members ending
  | .broken read _ => some read
  | .null | .bool _ | .int _ | .float _ | .string _ => none

/-- The first fault in reading the items of an array. -/
def readItems? (depth : Nat) : List Json → Ending → Option Fault
  | [], ending => ending
  | item :: items, ending =>
      match readFault? depth item with
      | some fault => some fault
      | none => readItems? depth items ending

/-- The first fault in reading the members of an object. -/
def readMembers? (depth : Nat) : List (Json × Json) → Ending → Option Fault
  | [], ending => ending
  | (name, value) :: members, ending =>
      match readFault? depth name with
      | some fault => some fault
      | none =>
          match readFault? depth value with
          | some fault => some fault
          | none => readMembers? depth members ending

end

mutual

/-- The levels of nesting in a text. -/
def nesting : Json → Nat
  | .array items _ => nestingItems items + 1
  | .object members _ => nestingMembers members + 1
  | .null | .bool _ | .int _ | .float _ | .string _ | .broken .. => 0

/-- The levels of nesting in the items of an array. -/
def nestingItems : List Json → Nat
  | [] => 0
  | item :: items => max (nesting item) (nestingItems items)

/-- The levels of nesting in the members of an object. -/
def nestingMembers : List (Json × Json) → Nat
  | [] => 0
  | (name, value) :: members =>
      max (nesting name) (max (nesting value) (nestingMembers members))

end

mutual

/-- The value that a text without faults denotes: members are ordered by name,
and of several members of one name the last counts. -/
def denoted : Json → Json
  | .array items ending => .array (denotedItems items) ending
  | .object members ending =>
      let named := SortedMap.ofList (denotedMembers members)
      .object (named.toList.map fun (name, value) => (.string name, value))
        ending
  | other => other

/-- The values of the items of an array. -/
def denotedItems : List Json → List Json
  | [] => []
  | item :: items => denoted item :: denotedItems items

/-- The names and values of the members of an object. -/
def denotedMembers : List (Json × Json) → List (String × Json)
  | [] => []
  | (.string name, value) :: members =>
      (name, denoted value) :: denotedMembers members
  | (_, _) :: members => denotedMembers members

end

def get? (json : Json) (name : String) : Option Json :=
  match json with
  | .object members _ =>
      (members.find? fun member =>
        match member.1 with
        | .string found => found == name
        | _ => false).map (·.2)
  | _ => none

/-- The value at a name in an object, null if there is none. -/
def getD (json : Json) (name : String) : Json :=
  (json.get? name).getD .null

def items : Json → List Json
  | .array items _ => items
  | _ => []

/-- The names and values of an object; other values have none. -/
def members : Json → List (String × Json)
  | .object members _ => members.filterMap fun
      | (.string name, value) => some (name, value)
      | _ => none
  | _ => []

def asText? : Json → Option String
  | .string value => some value
  | _ => none

def asInt? : Json → Option Int
  | .int value => some value
  | _ => none

def asBool? : Json → Option Bool
  | .bool value => some value
  | _ => none

def isNull : Json → Bool
  | .null => true
  | _ => false

end Json

end OvsdbClient
