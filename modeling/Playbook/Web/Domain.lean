import Playbook.Text.Composition
import Playbook.Text.Direction
import Playbook.Web.Neighbour
import Playbook.Web.Permitted
import Playbook.Web.Punycode
/-!
# Domain names

Domain names of any script, and the ASCII form that they have on the wire. A name is made of labels with dots
between them; a label that is not ASCII is written in punycode behind a mark.
-/

namespace Playbook.Web.Domain

def isDot (c : Char) : Bool := c == '.' || c == '\u3002' || c == '\uff0e' || c == '\uff61'

/-- The labels of a name, of which the last one may be empty. -/
def labels (cs : List Char) : List (List Char) := cs.splitOnP isDot

/-! ### Labels -/

def labelLimit : Nat := 63

def nameLimit : Nat := 253

/-- Hyphens stand inside, and not in the third and fourth place together. -/
def hyphensFit (cs : List Char) : Bool :=
  cs.head? != some '-' && cs.getLast? != some '-' && (cs.drop 2).take 2 != ['-', '-']

/-- Every character is permitted in its place; `before` is what stands in front, the nearest one first. -/
def allFit (before : List Char) : List Char → Bool
  | [] => true
  | c :: cs => (isPermitted c || suits before c cs) && allFit (c :: before) cs

def isLabel (cs : List Char) : Bool :=
  !cs.isEmpty && cs.length ≤ nameLimit + 1 && Text.composed cs == cs && hyphensFit cs && !cs.head?.any Text.isMark
    && allFit [] cs && Text.Direction.isConsistent (cs.map Text.direction)

/-- What stands in front of punycode. -/
def punycodeMark : List Char := ['x', 'n', '-', '-']

def isAscii (cs : List Char) : Bool := cs.all (·.toNat < 0x80)

/-- The label in ASCII. One that is ASCII already has to stand for a label. -/
def asciiLabel (cs : List Char) : Option (List Char) := do
  let label ←
    if !isAscii cs then if isLabel cs then some (punycodeMark ++ Punycode.encode cs) else none
    else if cs.take 4 = punycodeMark then
      match cs.drop 4, Punycode.decode (cs.drop 4) with
      | [], _ | _, none => none
      | code, some meant => if code.getLast? ≠ some '-' ∧ isLabel meant then some cs else none
    else if isLabel cs then some cs else none
  if label.length ≤ labelLimit then some label else none

/-! ### Names -/

/-- The name in ASCII, if it is one. A dot at the end stays. -/
def ascii (cs : List Char) : Option (List Char) := do
  if nameLimit + 1 < cs.length then none
  let all := labels cs
  let endsWithDot := all.getLast? = some []
  let ascii ← (if endsWithDot then all.dropLast else all).mapM asciiLabel
  let name := ['.'].intercalate (ascii ++ if endsWithDot then [[]] else [])
  if ascii.isEmpty ∨ nameLimit + (if endsWithDot then 1 else 0) < name.length then none else some name

end Playbook.Web.Domain
