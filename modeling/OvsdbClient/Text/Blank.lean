/-!
# Blank characters

The characters with the Unicode property White_Space, and texts without them at
either end.
-/

namespace OvsdbClient.Text

/-- Whether a character has the Unicode property White_Space. -/
def isBlank (char : Char) : Bool :=
  let code := char.toNat
  (0x09 ≤ code && code ≤ 0x0D) || code == 0x20 || code == 0x85 ||
    code == 0xA0 || code == 0x1680 || (0x2000 ≤ code && code ≤ 0x200A) ||
    code == 0x2028 || code == 0x2029 || code == 0x202F || code == 0x205F ||
    code == 0x3000

/-- The text without the blanks before its first and after its last other
character. -/
def trim (text : List Char) : List Char :=
  ((text.dropWhile isBlank).reverse.dropWhile isBlank).reverse

/-- Whether nothing but blanks is written. -/
def allBlank (text : String) : Bool :=
  text.toList.all isBlank

end OvsdbClient.Text
