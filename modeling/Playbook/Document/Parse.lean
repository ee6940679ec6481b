import Playbook.Document.Directive
import Playbook.Document.Comment
import Playbook.Document.Fence
/-!
# Documents

A document is read from top to bottom. A line that opens a directive, a comment or a code block goes to
that reader; the lines between are runs of plain text. A problem never stops the reading.
-/

namespace Playbook

open Text

structure Document where
  blocks : List Block
  problems : List Problem
deriving Repr, DecidableEq

namespace Document

def empty : Document := ⟨[], []⟩

def criticalProblems (d : Document) : List Problem := d.problems.filter (·.isCritical)

/-- A playbook may run if nothing critical was found. -/
def isExecutable (d : Document) : Bool := d.criticalProblems.isEmpty

/-- Whether the line opens a block of its own. -/
def isSpecial (line : Line) : Bool :=
  Directive.isDirectiveLine line || Comment.isCommentStart line || Fence.isOpen line

/-- Reads the run of plain text that the first line begins. -/
def readText (line : Nat) (first : Line) (rest : List Line) : Reading :=
  let more := rest.takeWhile (!isSpecial ·)
  let block : Block :=
    { name := Block.textName
      flags := []
      content := String.ofList (joinLines (first :: more))
      line := line
      endLine := line + more.length
      position := none
      language := none }
  ⟨some block, none, 1 + more.length⟩

def readBlock (line : Nat) (first : Line) (rest : List Line) : Reading :=
  if Directive.isDirectiveLine first then Directive.read line first rest
  else if Comment.isCommentStart first then Comment.read line first rest
  else if Fence.isOpen first then Fence.read line first rest
  else readText line first rest

/-- The readings of the lines, one after another; `line` is the number of the first line. -/
def readings (line : Nat) : List Line → List Reading
  | [] => []
  | first :: rest =>
    let reading := readBlock line first rest
    reading :: readings (line + reading.taken) (rest.drop (reading.taken - 1))
termination_by lines => lines.length
decreasing_by simp only [List.length_cons, List.length_drop]; omega

def ofLines (line : Nat) (lines : List Line) : Document where
  blocks := (readings line lines).filterMap (·.block)
  problems := (readings line lines).filterMap (·.problem)

/-- A blank text has no blocks at all. -/
def parse (text : String) : Document := if blank text then empty else ofLines 1 (lines text.toList)

end Document

end Playbook
