import OvsdbClient.Json.Basic
import OvsdbClient.Text.Numeral

/-!
# Writing JSON texts

Values are written without blanks.  Strings escape quotes, backslashes and
controls only.  Numbers that are not whole are written exactly, as a whole
number times a power of ten.
-/

namespace OvsdbClient.Json

/-- How one character stands in a JSON string. -/
def escape (char : Char) : String :=
  match char with
  | '"' => "\\\""
  | '\\' => "\\\\"
  | '\n' => "\\n"
  | '\r' => "\\r"
  | '\t' => "\\t"
  | _ =>
      if char.toNat < 0x20 then
        "\\u" ++ String.ofList (Text.hexDigits 4 char.toNat)
      else
        char.toString

def quote (text : String) : String :=
  "\"" ++ String.join (text.toList.map escape) ++ "\""

/-- `significand / 2 ^ halvings` as a whole number and the power of ten that it
is divided by. -/
def decimalParts : (halvings : Nat) → (significand : Nat) → Nat × Nat
  | 0, significand => (significand, 0)
  | halvings + 1, significand =>
      if significand % 2 = 0 then decimalParts halvings (significand / 2)
      else (significand * Nat.pow 5 (halvings + 1), halvings + 1)

/-- The text of a finite binary64 number, which is taken apart into its sign,
its significand and its power of two. -/
def numberText (number : Float) : String :=
  let bits := number.toBits.toNat
  let fraction := bits % 0x10000000000000
  let exponent := bits / 0x10000000000000 % 0x800
  let significand :=
    if exponent = 0 then fraction else fraction + 0x10000000000000
  let power := max exponent 1
  let (digits, places) :=
    decimalParts (1075 - power) (significand <<< (power - 1075))
  let sign := if bits / 0x8000000000000000 = 1 then "-" else ""
  sign ++ toString digits ++ "e-" ++ toString places

mutual

def render : Json → String
  | .null => "null"
  | .bool true => "true"
  | .bool false => "false"
  | .int value => toString value
  | .float value => numberText value
  | .string value => quote value
  | .array items _ => "[" ++ ",".intercalate (renderItems items) ++ "]"
  | .object members _ =>
      "\x7b" ++ ",".intercalate (renderMembers members) ++ "\x7d"
  | .broken _ _ => "null"

def renderItems : List Json → List String
  | [] => []
  | item :: items => render item :: renderItems items

def renderMembers : List (Json × Json) → List String
  | [] => []
  | (name, value) :: members =>
      (render name ++ ":" ++ render value) :: renderMembers members

end

end OvsdbClient.Json
