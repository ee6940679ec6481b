import Playbook.Document.Reading
import Playbook.Text.Lines
/-!
# Directives

`@name`, with flags or values on the same line, or with flags on the lines that follow it:

    @task
    --prompt "Summarize the notes"
    --variable summary

The flag lines go on as long as a line begins with two dashes.
-/

namespace Playbook.Directive

open Text

def isDirectiveLine (line : Line) : Bool := ['@'].isPrefixOf (trim line)

def isFlagLine (line : Line) : Bool := ['-', '-'].isPrefixOf (trim line)

/-- The name, and what stands after it on the line. -/
structure Header where
  name : List Char
  trailing : List Char
deriving Repr, DecidableEq

/-- The header of a trimmed line; the line may not be broken. -/
def header? : List Char → Option Header
  | '@' :: c :: cs =>
    if Token.isNameStart c && !(cs.dropWhile Token.isNameChar).contains '\n' then
      some ⟨c :: cs.takeWhile Token.isNameChar, cs.dropWhile Token.isNameChar⟩
    else none
  | _ => none

/-- The flags of a trimmed flag line that is indented by `column`. -/
def lineFlags (line : Nat) (text : Line) : List Flag :=
  (FlagTokens.named (Token.scan (trim text))).map (·.placed line (indent text))

/-- The flags of consecutive lines. -/
def linesFlags (line : Nat) : List Line → List Flag
  | [] => []
  | text :: rest => lineFlags line text ++ linesFlags (line + 1) rest

/-- The flags or values behind the name, on its line. -/
def trailingFlags (line : Nat) (text : Line) (h : Header) : List Flag :=
  let column := indent text + h.name.length + 1 + indent h.trailing
  (FlagTokens.ofText (trim h.trailing)).map (·.placed line column)

/-- Reads the directive on the first line; `line` is the number of that line. -/
def read (line : Nat) (first : Line) (rest : List Line) : Reading :=
  match header? (trim first) with
  | none => ⟨none, some (.badDirective line (trim first)), 1⟩
  | some h =>
    let more := if isBlank h.trailing then rest.takeWhile isFlagLine else []
    let block : Block :=
      { name := String.ofList h.name
        flags := if isBlank h.trailing then linesFlags (line + 1) more else trailingFlags line first h
        content := String.ofList (joinLines (trim first :: more.map trim))
        line := line
        endLine := line + more.length
        position := some ⟨line, indent first, h.name.length + 1⟩
        language := none }
    ⟨some block, none, 1 + more.length⟩

end Playbook.Directive
