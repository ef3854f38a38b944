import OvsdbClient.Data.Value
import OvsdbClient.Text.Quoted

/-!
# Mutations

Changes in place to one column of one row.
-/

namespace OvsdbClient

/-- A change to the value of a column. -/
inductive Mutation where
  | increment (delta : Int)
  | mapSet (key value : String)
  | mapDelete (key : String)
  | setAdd (atom : Atom)
  | setRemove (atom : Atom)
deriving DecidableEq, Inhabited

namespace Mutation

/-- Whether an integer has 64 bits. -/
def fits (value : Int) : Bool := minSigned64 ≤ value && value ≤ maxSigned64

/-- A value as a set: an atom counts as the set of itself. -/
def setOf? : Value → Option (SortedSet Atom)
  | .set members => some members
  | .atom atom => some (SortedSet.empty.insert atom)
  | .map _ => none

/-- The value after a mutation, which does not apply to every kind of value.  A
missing value counts as zero, as the empty map, or as the empty set. -/
def result? (mutation : Mutation) (current : Option Value) : Option Value :=
  match mutation with
  | .increment delta => do
      let base ← current.elim (some 0) Value.asInteger?
      if fits (base + delta) then some (.atom (.integer (base + delta)))
      else none
  | .mapSet key value => do
      let entries ← current.elim (some .empty) Value.asMap?
      return .map (entries.insert key value)
  | .mapDelete key => do
      let entries ← current.elim (some .empty) Value.asMap?
      return .map (entries.erase key)
  | .setAdd atom => do
      let members ← current.elim (some .empty) setOf?
      return .set (members.insert atom)
  | .setRemove atom => do
      let members ← current.elim (some .empty) setOf?
      return .set (members.erase atom)

/-- How messages show an atom. -/
def atomText : Atom → String
  | .integer value => "Integer(" ++ toString value ++ ")"
  | .boolean value => "Boolean(" ++ (if value then "true" else "false") ++ ")"
  | .string value => "String(" ++ Text.quoted value ++ ")"
  | .uuid value => "Uuid(" ++ value.text ++ ")"

def text : Mutation → String
  | .increment delta => "Increment(" ++ toString delta ++ ")"
  | .mapSet key value =>
      "MapSet \x7b key: " ++ Text.quoted key ++ ", value: " ++
        Text.quoted value ++ " \x7d"
  | .mapDelete key => "MapDelete \x7b key: " ++ Text.quoted key ++ " \x7d"
  | .setAdd atom => "SetAdd(" ++ atomText atom ++ ")"
  | .setRemove atom => "SetRemove(" ++ atomText atom ++ ")"

def toJson : Mutation → Json
  | .increment delta => .record [("increment", .int delta)]
  | .mapSet key value =>
      .record [("map_set", .list [.string key, .string value])]
  | .mapDelete key => .record [("map_delete", .string key)]
  | .setAdd atom => .record [("set_add", atom.toJson)]
  | .setRemove atom => .record [("set_remove", atom.toJson)]

end Mutation

end OvsdbClient
