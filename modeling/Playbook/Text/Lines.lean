/-!
# Lines

A text is cut into lines at line feeds. A line feed at the very end starts no further line, and one
carriage return at the end of a line belongs to the line end.
-/

namespace Playbook.Text

abbrev Line := List Char

/-- The pieces between line feeds, carriage returns kept. -/
def rawLines : List Char → List Line
  | [] => []
  | c :: cs =>
    if c = '\n' then [] :: rawLines cs
    else match rawLines cs with
      | [] => [[c]]
      | line :: rest => (c :: line) :: rest

def dropReturn (line : Line) : Line := if line.getLast? = some '\r' then line.dropLast else line

def lines (cs : List Char) : List Line := (rawLines cs).map dropReturn

/-- The lines with a line feed between each two. -/
def joinLines : List Line → List Char
  | [] => []
  | [line] => line
  | line :: rest => line ++ '\n' :: joinLines rest

/-! ### Display lines

A text shown to a reader breaks at more characters than the line feed. -/

def isLineBreak (c : Char) : Bool :=
  let n := c.toNat
  (0x0a ≤ n && n ≤ 0x0d) || (0x1c ≤ n && n ≤ 0x1e) || n == 0x85 || n == 0x2028 || n == 0x2029

def firstDisplayLine (cs : List Char) : List Char := cs.takeWhile (!isLineBreak ·)

/-! ### Line ends in stored files

A reader of a text file takes `\r\n` and a lone `\r` for `\n`. -/

def unifyLineEnds : List Char → List Char
  | [] => []
  | '\r' :: '\n' :: cs => '\n' :: unifyLineEnds cs
  | '\r' :: cs => '\n' :: unifyLineEnds cs
  | c :: cs => c :: unifyLineEnds cs

end Playbook.Text
