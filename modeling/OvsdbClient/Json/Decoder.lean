import OvsdbClient.Json.Reader

/-!
# Decoding JSON

A decoder asks a JSON text for one shape and fails at the first thing that
stands in the way, in the order of the text.  `decodeText` and `decodeValue` run
decoders on texts and on values.
-/

namespace OvsdbClient.Json

/-- What a decoder has to know of the place it is at: the levels of nesting
left, and what is wrong with an array that goes on after the last field of a
record. -/
structure Place where
  depth : Nat
  excess : Fault

/-- The place inside an array or object at this place. -/
def Place.inner (place : Place) : Except Fault Place :=
  if place.depth ≤ 1 then .error .malformed
  else .ok { place with depth := place.depth - 1 }

/-- Reads one shape at a place. -/
abbrev Decoder (α : Type) := Place → Json → Except Fault α

/-- What follows the last part of an array or object. -/
def Ending.check (ending : Ending) : Except Fault Unit :=
  match ending with
  | some fault => .error fault
  | none => .ok ()

namespace Decoder

variable {α β σ : Type}

/-- What is wrong with a value that does not have the shape asked for. -/
def refusal : Json → Fault
  | .broken read _ => read
  | _ => .mismatch

/-- An integer with both bounds included. -/
def integer (low high : Int) : Decoder Int
  | _, .int value =>
      if low ≤ value ∧ value ≤ high then .ok value else .error .mismatch
  | _, json => .error (refusal json)

/-- What a decoder reads, changed. -/
def map (change : α → β) (decoder : Decoder α) : Decoder β :=
  fun place json => (decoder place json).map change

def signed64 : Decoder Int := integer minSigned64 maxSigned64

def unsigned64 : Decoder Nat := map Int.toNat (integer 0 maxUnsigned64)

def unsigned32 : Decoder Nat := map Int.toNat (integer 0 maxUnsigned32)

def float : Decoder Float
  | _, .int value => .ok (Float.ofInt value)
  | _, .float value => .ok value
  | _, json => .error (refusal json)

def bool : Decoder Bool
  | _, .bool value => .ok value
  | _, json => .error (refusal json)

def string : Decoder String
  | _, .string value => .ok value
  | _, json => .error (refusal json)

/-- A string that `accept` understands. -/
def stringOf (accept : String → Option α) : Decoder α := fun place json => do
  match accept (← string place json) with
  | some value => .ok value
  | none => .error .mismatch

/-- A value that may be null. -/
def optional (decoder : Decoder α) : Decoder (Option α)
  | _, .null => .ok none
  | place, json => (decoder place json).map some

def items (decoder : Decoder α) : Decoder (List α)
  | place, .array items ending => do
      let place ← place.inner
      let values ← items.mapM (decoder place)
      ending.check
      return values
  | _, json => .error (refusal json)

/-- An object whose values have one shape; of several members of one name the
last counts. -/
def table (decoder : Decoder α) : Decoder (SortedMap String α)
  | place, .object members ending => do
      let place ← place.inner
      let entries ← members.mapM fun (name, value) => do
        return (← string place name, ← decoder place value)
      ending.check
      return .ofList entries
  | _, json => .error (refusal json)

/-- The first of several shapes that fits a value, which is read completely
beforehand. -/
def anyOf (decoders : List (Decoder α)) : Decoder α := fun place json =>
  match json.readFault? place.depth with
  | some fault => .error fault
  | none =>
      let found := decoders.findSome? fun decoder =>
        (decoder { place with excess := .mismatch } json).toOption
      match found with
      | some value => .ok value
      | none => .error .mismatch

/-- An object with one member, whose name tells the shape of its value. -/
def tagged (shapes : List (String × Decoder α)) : Decoder α
  | place, .object [(.string tag, value)] none => do
      match shapes.lookup tag with
      | some decoder => decoder (← place.inner) value
      | none => .error .mismatch
  | _, json => .error (refusal json)

/-- A field of a record under construction. -/
structure Field (σ : Type) where
  name : String
  present : σ → Bool
  fill : Place → Json → σ → Except Fault σ

/-- The field that `get?` looks up and `set` stores. -/
def Field.of (name : String) (get? : σ → Option α) (set : σ → Option α → σ)
    (decoder : Decoder α) : Field σ where
  name := name
  present draft := (get? draft).isSome
  fill place json draft := return set draft (some (← decoder place json))

/-- Fills a record from the members of an object: a field may be given once,
other members are skipped. -/
def fillNamed (fields : List (Field σ)) (place : Place) :
    List (Json × Json) → Ending → σ → Except Fault σ
  | [], ending, draft => do
      ending.check
      return draft
  | (name, value) :: members, ending, draft => do
      let name ← string place name
      match fields.find? (·.name == name) with
      | some field =>
          if field.present draft then
            .error .mismatch
          else
            let draft ← field.fill place value draft
            fillNamed fields place members ending draft
      | none =>
          Ending.check value.skipFault?
          fillNamed fields place members ending draft

/-- Fills a record from the items of an array, which give the fields in order;
the last fields may be left out. -/
def fillListed (place : Place) :
    List (Field σ) → List Json → Ending → σ → Except Fault σ
  | [], [], ending, draft => do
      ending.check
      return draft
  | [], _ :: _, _, _ => .error place.excess
  | _ :: _, [], ending, draft => do
      ending.check
      return draft
  | field :: fields, item :: items, ending, draft => do
      fillListed place fields items ending (← field.fill place item draft)

/-- A record given by an object. -/
def named (fields : List (Field σ)) (blank : σ) : Decoder σ
  | place, .object members ending => do
      fillNamed fields (← place.inner) members ending blank
  | _, json => .error (refusal json)

def record (fields : List (Field σ)) (blank : σ) : Decoder σ
  | place, .array items ending => do
      fillListed (← place.inner) fields items ending blank
  | place, json => named fields blank place json

/-- The value of a field that must be given. -/
def required (field : Option α) : Except Fault α :=
  match field with
  | some value => .ok value
  | none => .error .mismatch

end Decoder

/-- Decodes a value, which may nest to any depth. -/
def decodeValue {α : Type} (decoder : Decoder α) (json : Json) :
    Except Fault α :=
  decoder ⟨json.nesting + 1, .mismatch⟩ json

/-- Decodes a text, which must end after its value. -/
def decodeText {α : Type} (decoder : Decoder α) (text : String) :
    Except Fault α := do
  let (json, trailing) := read text
  let value ← decoder ⟨nestingLimit, .malformed⟩ json
  Ending.check trailing
  return value

end OvsdbClient.Json
