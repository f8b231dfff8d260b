/-! Blank characters are the white space of the Unicode property list, and trimming drops them. -/

namespace CalcFields

/-- A character is blank when Unicode lists it as white space. -/
def isBlank (c : Char) : Bool :=
  let n := c.toNat
  (9 ≤ n && n ≤ 13) || n == 0x20 || n == 0x85 || n == 0xA0 || n == 0x1680 ||
    (0x2000 ≤ n && n ≤ 0x200A) || n == 0x2028 || n == 0x2029 || n == 0x202F || n == 0x205F ||
    n == 0x3000

/-- Dropping the blanks at the front keeps the rest in place. -/
def trimFront (cs : List Char) : List Char :=
  cs.dropWhile isBlank

/-- Dropping the blanks at the back keeps the rest in place. -/
def trimBack (cs : List Char) : List Char :=
  (cs.reverse.dropWhile isBlank).reverse

/-- Trimming drops the blanks at both ends. -/
def trimChars (cs : List Char) : List Char :=
  trimBack (trimFront cs)

/-- Trimming a string drops the blanks at both ends. -/
def trim (s : String) : String :=
  String.ofList (trimChars s.toList)

/-- A string is blank when it holds nothing but blanks. -/
def isBlankText (s : String) : Bool :=
  s.toList.all isBlank

end CalcFields
