import OvsdbClient.Json.Number
import OvsdbClient.Text.Numeral

/-!
# Reading JSON texts

`Json.read` turns a text into its tree, faults and all.  `Json.ofText` asks for
a complete value.
-/

namespace OvsdbClient.Json

/-- The text after any spaces, tabs and line ends. -/
def skipBlank (text : List Char) : List Char :=
  text.dropWhile fun char =>
    char = ' ' ∨ char = '\n' ∨ char = '\t' ∨ char = '\r'

/-- A place that can be neither read nor skipped. -/
def stuck (fault : Fault) : Json × Option (List Char) :=
  (.broken fault (some fault), none)

/-- Reads the rest of a literal word. -/
def readWord (value : Json) :
    (word text : List Char) → Json × Option (List Char)
  | [], text => (value, some text)
  | _ :: _, [] => stuck .truncated
  | expected :: word, char :: text =>
      if char = expected then readWord value word text else stuck .malformed

/-- The character that a backslash and one more character stand for. -/
def shortEscape? (char : Char) : Option Char :=
  match char with
  | '"' => some '"'
  | '\\' => some '\\'
  | '/' => some '/'
  | 'b' => some '\x08'
  | 'f' => some '\x0c'
  | 'n' => some '\n'
  | 'r' => some '\r'
  | 't' => some '\t'
  | _ => none

/-- The number of bytes that characters take in UTF-8. -/
def byteCount (chars : List Char) : Nat :=
  chars.foldl (fun total char => total + char.utf8Size) 0

/-- A part of a written string: a character, or a 16-bit unit given by
number. -/
inductive Piece where
  | char (char : Char)
  | unit (code : Nat)

/-- The parts of a written string up to its closing quote and the text after it,
or up to a fault. -/
def scanString : List Char → List Piece × Except Fault (List Char)
  | [] => ([], .error .truncated)
  | '"' :: rest => ([], .ok rest)
  | '\\' :: 'u' :: d₁ :: d₂ :: d₃ :: d₄ :: rest =>
      match Text.digits? 16 [d₁, d₂, d₃, d₄] with
      | some code =>
          let (pieces, outcome) := scanString rest
          (.unit code :: pieces, outcome)
      | none => ([], .error .malformed)
  | '\\' :: 'u' :: short =>
      ([], .error (if byteCount short < 4 then .truncated else .malformed))
  | ['\\'] => ([], .error .truncated)
  | '\\' :: escaped :: rest =>
      match shortEscape? escaped with
      | some char =>
          let (pieces, outcome) := scanString rest
          (.char char :: pieces, outcome)
      | none => ([], .error .malformed)
  | char :: rest =>
      if char.toNat < 0x20 then
        ([], .error .malformed)
      else
        let (pieces, outcome) := scanString rest
        (.char char :: pieces, outcome)

/-- The characters of a written string, in which surrogates must come in pairs.
If the string was cut short, half a pair may stand last. -/
def joinPieces? (short : Bool) : List Piece → Option (List Char)
  | [] => some []
  | .char char :: rest => (joinPieces? short rest).map (char :: ·)
  | .unit code :: rest =>
      if 0xD800 ≤ code ∧ code ≤ 0xDBFF then
        match rest with
        | .unit low :: rest =>
            if 0xDC00 ≤ low ∧ low ≤ 0xDFFF then
              let combined := 0x10000 + (code - 0xD800) * 0x400 + (low - 0xDC00)
              (joinPieces? short rest).map (Char.ofNat combined :: ·)
            else
              none
        | [] => if short then some [] else none
        | .char _ :: _ => none
      else if 0xDC00 ≤ code ∧ code ≤ 0xDFFF then
        none
      else
        (joinPieces? short rest).map (Char.ofNat code :: ·)

/-- Reads a string after its opening quote.  A skipped string may hold unpaired
surrogates. -/
def readString (text : List Char) : Json × Option (List Char) :=
  match scanString text with
  | (pieces, .ok rest) =>
      match joinPieces? false pieces with
      | some chars => (.string (String.ofList chars), some rest)
      | none => (.broken .malformed none, some rest)
  | (pieces, .error fault) =>
      let read :=
        if (joinPieces? true pieces).isSome then fault else .malformed
      (.broken read (some fault), none)

mutual

/-- Reads one value and returns what follows it, if the text can be read on.
`fuel` bounds the number of nested and following parts. -/
def readValue : (fuel : Nat) → List Char → Json × Option (List Char)
  | 0, _ => stuck .malformed
  | fuel + 1, text =>
      match skipBlank text with
      | [] => stuck .truncated
      | 'n' :: rest => readWord .null "ull".toList rest
      | 't' :: rest => readWord (.bool true) "rue".toList rest
      | 'f' :: rest => readWord (.bool false) "alse".toList rest
      | '"' :: rest => readString rest
      | '-' :: rest => readNumber true rest
      | '[' :: rest =>
          match skipBlank rest with
          | ']' :: rest => (.list [], some rest)
          | [] => (.array [] (some .truncated), none)
          | rest =>
              let (items, ending, rest) := readItems fuel rest
              (.array items ending, rest)
      | '\x7b' :: rest =>
          match skipBlank rest with
          | '\x7d' :: rest => (.object [] none, some rest)
          | rest =>
              let (members, ending, rest) := readMembers fuel rest
              (.object members ending, rest)
      | char :: rest =>
          if char.isDigit then readNumber false (char :: rest)
          else stuck .malformed

/-- Reads the items of an array up to its end. -/
def readItems :
    (fuel : Nat) → List Char → List Json × Ending × Option (List Char)
  | 0, _ => ([], some .malformed, none)
  | fuel + 1, text =>
      match readValue fuel text with
      | (item, none) => ([item], none, none)
      | (item, some rest) =>
          match skipBlank rest with
          | ']' :: rest => ([item], none, some rest)
          | ',' :: rest =>
              let (items, ending, rest) := readItems fuel rest
              (item :: items, ending, rest)
          | [] => ([item], some .truncated, none)
          | _ => ([item], some .malformed, none)

/-- Reads the members of an object up to its end. -/
def readMembers :
    (fuel : Nat) → List Char →
      List (Json × Json) × Ending × Option (List Char)
  | 0, _ => ([], some .malformed, none)
  | fuel + 1, text =>
      match skipBlank text with
      | '"' :: rest =>
          match readString rest with
          | (name, none) => ([(name, .null)], none, none)
          | (name, some rest) =>
              match skipBlank rest with
              | ':' :: rest =>
                  match readValue fuel rest with
                  | (value, none) => ([(name, value)], none, none)
                  | (value, some rest) =>
                      match skipBlank rest with
                      | '\x7d' :: rest => ([(name, value)], none, some rest)
                      | ',' :: rest =>
                          let (members, ending, rest) := readMembers fuel rest
                          ((name, value) :: members, ending, rest)
                      | [] => ([(name, value)], some .truncated, none)
                      | _ => ([(name, value)], some .malformed, none)
              | [] =>
                  ([(name, .broken .truncated (some .truncated))], none, none)
              | _ =>
                  ([(name, .broken .malformed (some .malformed))], none, none)
      | [] => ([], some .truncated, none)
      | _ => ([], some .malformed, none)

end

/-- The tree of a text, and the fault of a text that goes on after its value. -/
def read (text : String) : Json × Option Fault :=
  let chars := text.toList
  match readValue (2 * chars.length + 2) chars with
  | (json, some rest) =>
      (json, if (skipBlank rest).isEmpty then none else some .malformed)
  | (json, none) => (json, none)

/-- The value that a complete text denotes, or the first fault met in reading
it. -/
def ofText (text : String) : Except Fault Json :=
  match read text with
  | (json, trailing) =>
      match json.readFault? nestingLimit, trailing with
      | some fault, _ => .error fault
      | none, some fault => .error fault
      | none, none => .ok json.denoted

end OvsdbClient.Json
