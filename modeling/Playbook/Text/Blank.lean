/-!
# Blank characters

Which characters are blank, and cutting blanks off the ends of a text. Texts are scanned as lists of
characters; the `String` forms below are the same functions on the characters of the string.
-/

namespace Playbook.Text

/-- Tab to carriage return, the four separators before the space, the space, and the spaces and line ends
beyond ASCII. The zero-width characters are not blank. -/
def isBlankChar (c : Char) : Bool :=
  let n := c.toNat
  (0x09 ≤ n && n ≤ 0x0d) || (0x1c ≤ n && n ≤ 0x20) || n == 0x85 || n == 0xa0 || n == 0x1680
    || (0x2000 ≤ n && n ≤ 0x200a) || n == 0x2028 || n == 0x2029 || n == 0x202f || n == 0x205f || n == 0x3000

def isBlank (cs : List Char) : Bool := cs.all isBlankChar

def trimStart (cs : List Char) : List Char := cs.dropWhile isBlankChar

def trimEnd (cs : List Char) : List Char := (cs.reverse.dropWhile isBlankChar).reverse

def trim (cs : List Char) : List Char := trimEnd (trimStart cs)

/-- The width of the blank margin on the left. -/
def indent (cs : List Char) : Nat := (cs.takeWhile isBlankChar).length

/-! ### On strings -/

def blank (s : String) : Bool := isBlank s.toList

def strip (s : String) : String := String.ofList (trim s.toList)

end Playbook.Text
