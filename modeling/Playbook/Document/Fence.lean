import Playbook.Document.Reading
import Playbook.Text.Lines
/-!
# Fenced code

Three backticks, with a language right behind them if there is one, open a code block; a line of just three
backticks closes it. Everything between is kept as it is.
-/

namespace Playbook.Fence

open Text

def mark : List Char := ['\x60', '\x60', '\x60']

/-- The word behind the opening marker of a trimmed line, empty for a bare fence. -/
def tag? (cs : List Char) : Option (List Char) :=
  if mark.isPrefixOf cs && !(cs.drop 3).any isBlankChar then some (cs.drop 3) else none

def isOpen (line : Line) : Bool := (tag? (trim line)).isSome

def isClose (line : Line) : Bool := trim line == mark

def language (line : Line) : Option String :=
  match tag? (trim line) with
  | none | some [] => none
  | some tag => some (String.ofList tag)

/-- Reads the code block that the first line opens; `line` is the number of that line. -/
def read (line : Nat) (first : Line) (rest : List Line) : Reading :=
  let body := rest.takeWhile (!isClose ·)
  if body.length < rest.length then
    let block : Block :=
      { name := Block.codeName
        flags := []
        content := String.ofList (joinLines body)
        line := line
        endLine := line + body.length + 1
        position := none
        language := language first }
    ⟨some block, none, body.length + 2⟩
  else ⟨none, some (.openFence line (trim first)), body.length + 1⟩

end Playbook.Fence
