import Playbook.Document.Parse
import Playbook.Text.Json
/-!
# Listings

A document as readable text: one line for each block with the lines it spans, then one for each problem.
-/

namespace Playbook.Listing

open Text

def span (b : Block) : String := if b.endLine = b.line then s!"{b.line}" else s!"{b.line}-{b.endLine}"

def valueText (f : Flag) : String := String.ofList (Json.encodeText f.joined)

def flagText (f : Flag) : String := if f.isPositional then valueText f else s!"--{f.name} {valueText f}"

def previewLimit : Nat := 60

/-- The first line of a text, cut short with an ellipsis if it is too long. -/
def preview (content : List Char) : List Char :=
  let first := firstDisplayLine (trim content)
  if previewLimit < first.length then first.take (previewLimit - 3) ++ ['.', '.', '.'] else first

def blockLine (b : Block) : String :=
  if b.isDirective then
    let flags := " ".intercalate (b.flags.map flagText)
    String.ofList (trimEnd s!"  [{span b}] @{b.name} {flags}".toList)
  else s!"  [{span b}] {b.name}: {String.ofList (preview b.content.toList)}"

def lineText : Option Int → String
  | none => "None"
  | some n => toString n

def problemLine (p : Problem) : String := s!"  line {lineText p.line} [{p.severity.text}] {p.code}: {p.message}"

def lines (d : Document) : List String :=
  s!"Blocks ({d.blocks.length}):" :: d.blocks.map blockLine
    ++ if d.problems.isEmpty then [] else s!"Errors ({d.problems.length}):" :: d.problems.map problemLine

def text (d : Document) : String := "\n".intercalate (lines d)

end Playbook.Listing
