import Playbook.Document.Reading
import Playbook.Text.Lines
import Playbook.Text.Search
/-!
# Comments

`<!-- … -->`, on one line or over several. A comment that fills its line is the text between its first and
its last marker; any other comment ends at the first closing marker, and without one at the last line.
-/

namespace Playbook.Comment

open Text

def openMark : List Char := ['<', '!', '-', '-']

def closeMark : List Char := ['-', '-', '>']

/-- What stands between the two markers of a trimmed line. -/
def inner (cs : List Char) : List Char := trim ((cs.take (cs.length - 3)).drop 4)

def isFull (cs : List Char) : Bool := openMark.isPrefixOf cs && closeMark.isSuffixOf cs && 7 ≤ cs.length

def isComment (line : Line) : Bool := isFull (trim line)

def isCommentStart (line : Line) : Bool := openMark.isPrefixOf (trim line)

def content (line : Line) : List Char := inner (trim line)

/-- The text of the opening line after the marker. -/
def opening (first : Line) : List Char :=
  let cs := trim first
  trimStart (if openMark.isPrefixOf cs then cs.drop openMark.length else cs)

/-- The lines up to the first closing marker, the last one cut before it, and their number. -/
def upToClose : List Line → List Line × Nat
  | [] => ([], 0)
  | line :: rest =>
    match splitFirst? closeMark line with
    | some (before, _) => ([before], 1)
    | none =>
      let (more, n) := upToClose rest
      (line :: more, n + 1)

def block (text : List Char) (line endLine : Nat) : Block where
  name := Block.commentName
  flags := []
  content := String.ofList text
  line := line
  endLine := endLine
  position := none
  language := none

/-- Reads the comment on the first line; `line` is the number of that line. -/
def read (line : Nat) (first : Line) (rest : List Line) : Reading :=
  if isComment first then ⟨some (block (content first) line line), none, 1⟩
  else
    match splitFirst? closeMark (opening first) with
    | some (before, _) => ⟨some (block (trim before) line line), none, 1⟩
    | none =>
      let (more, n) := upToClose rest
      let body := if opening first = [] then more else opening first :: more
      ⟨some (block (trim (joinLines body)) line (line + n)), none, 1 + n⟩

end Playbook.Comment
