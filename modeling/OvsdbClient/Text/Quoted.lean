import OvsdbClient.Text.Numeral
import OvsdbClient.Text.Unprintable

/-!
# Quoted texts

A text between double quotes, in which every character can be told: quotes and
backslashes are escaped, the common controls have short escapes, and other
characters that would not show are written by their number.
-/

namespace OvsdbClient.Text

/-- How one character stands inside quotes. -/
def escape (char : Char) : String :=
  match char with
  | '\x00' => "\\0"
  | '\t' => "\\t"
  | '\r' => "\\r"
  | '\n' => "\\n"
  | '\\' => "\\\\"
  | '"' => "\\\""
  | _ =>
      if isUnprintable char then "\\u\x7b" ++ hexNumeral char.toNat ++ "\x7d"
      else char.toString

/-- The text between double quotes, with its characters escaped. -/
def quoted (text : String) : String :=
  "\"" ++ String.join (text.toList.map escape) ++ "\""

end OvsdbClient.Text
