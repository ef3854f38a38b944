import OvsdbClient.Json.Decoder
import OvsdbClient.Uuid

/-!
# Atoms

The indivisible column values.  Atoms of different kinds are ordered by kind.
-/

namespace OvsdbClient

/-- An integer of 64 bits, a truth value, a string, or a reference to a row. -/
inductive Atom where
  | integer (value : Int)
  | boolean (value : Bool)
  | string (value : String)
  | uuid (value : Uuid)
deriving DecidableEq, Inhabited

namespace Atom

/-- The order of atoms: integers, truth values, strings, references, each kind
by its own order. -/
protected def compare : Atom → Atom → Ordering
  | .integer left, .integer right => Ord.compare left right
  | .integer _, _ => .lt
  | _, .integer _ => .gt
  | .boolean left, .boolean right => Ord.compare left right
  | .boolean _, _ => .lt
  | _, .boolean _ => .gt
  | .string left, .string right => Ord.compare left right
  | .string _, _ => .lt
  | _, .string _ => .gt
  | .uuid left, .uuid right => Ord.compare left right

instance : Ord Atom := ⟨Atom.compare⟩

instance : Std.TransOrd Atom where
  eq_swap {left right} := by
    cases left <;> cases right
    case integer.integer left right =>
      exact @Std.OrientedCmp.eq_swap _ compare _ left right
    case boolean.boolean left right =>
      exact @Std.OrientedCmp.eq_swap _ compare _ left right
    case string.string left right =>
      exact @Std.OrientedCmp.eq_swap _ compare _ left right
    case uuid.uuid left right =>
      exact @Std.OrientedCmp.eq_swap _ compare _ left right
    all_goals rfl
  isLE_trans {first second third} low high := by
    cases first <;> cases second <;> cases third
    case integer.integer.integer a b c =>
      exact @Std.TransCmp.isLE_trans _ compare _ a b c low high
    case boolean.boolean.boolean a b c =>
      exact @Std.TransCmp.isLE_trans _ compare _ a b c low high
    case string.string.string a b c =>
      exact @Std.TransCmp.isLE_trans _ compare _ a b c low high
    case uuid.uuid.uuid a b c =>
      exact @Std.TransCmp.isLE_trans _ compare _ a b c low high
    all_goals
      first
      | rfl
      | exact (Bool.false_ne_true low).elim
      | exact (Bool.false_ne_true high).elim

instance : Std.LawfulEqOrd Atom where
  compare_self {atom} := by
    cases atom
    case integer value => exact @Std.ReflCmp.compare_self _ compare _ value
    case boolean value => exact @Std.ReflCmp.compare_self _ compare _ value
    case string value => exact @Std.ReflCmp.compare_self _ compare _ value
    case uuid value => exact @Std.ReflCmp.compare_self _ compare _ value
  eq_of_compare {left right} equal := by
    cases left <;> cases right
    case integer.integer =>
      exact congrArg Atom.integer (Std.LawfulEqOrd.eq_of_compare equal)
    case boolean.boolean =>
      exact congrArg Atom.boolean (Std.LawfulEqOrd.eq_of_compare equal)
    case string.string =>
      exact congrArg Atom.string (Std.LawfulEqOrd.eq_of_compare equal)
    case uuid.uuid =>
      exact congrArg Atom.uuid (Std.LawfulEqOrd.eq_of_compare equal)
    all_goals cases equal

def text : Atom → String
  | .integer value => toString value
  | .boolean value => if value then "true" else "false"
  | .string value => value
  | .uuid value => value.text

def toJson : Atom → Json
  | .integer value => .record [("integer", .int value)]
  | .boolean value => .record [("boolean", .bool value)]
  | .string value => .record [("string", .string value)]
  | .uuid value => .record [("uuid", .string value.text)]

def decoder : Json.Decoder Atom :=
  .tagged [
    ("integer", .map Atom.integer Json.Decoder.signed64),
    ("boolean", .map Atom.boolean Json.Decoder.bool),
    ("string", .map Atom.string Json.Decoder.string),
    ("uuid", .map Atom.uuid (Json.Decoder.stringOf Uuid.ofText?))]

def greatest? : List Atom → Option Atom
  | [] => none
  | atom :: atoms =>
      match greatest? atoms with
      | some other => if compare atom other = .gt then some atom else some other
      | none => some atom

end Atom

end OvsdbClient
