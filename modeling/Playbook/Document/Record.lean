import Playbook.Document.Parse
import Playbook.Text.Json
/-!
# Documents as records

Blocks, flags and problems as JSON. A field that is not there is left out.
-/

namespace Playbook

namespace Position

def json (p : Position) : Json := .obj [("line", .nat p.line), ("start", .nat p.start), ("length", .nat p.length)]

end Position

namespace Flag

def json (f : Flag) : Json :=
  .object [[("name", .str f.name), ("value", .list .ofString f.values)], Json.present "position" Position.json f.position,
    [("value_positions", .list Position.json f.valuePositions)]]

end Flag

namespace Block

def json (b : Block) : Json :=
  .object [[("name", .str b.name), ("flags", .list Flag.json b.flags), ("content", .str b.content), ("line", .nat b.line),
    ("end_line", .nat b.endLine)], Json.present "annotation_position" Position.json b.position,
    [("metadata", .obj (Json.present "language" .ofString b.language))]]

end Block

namespace Problem

def json (p : Problem) : Json :=
  .object [[("type", .str p.code), ("message", .str p.message)], Json.present "line" .int p.line,
    [("severity", .str p.severity.text)], Json.present "context" .ofString p.context]

end Problem

namespace Document

def json (d : Document) : Json := .obj [("blocks", .list Block.json d.blocks), ("errors", .list Problem.json d.problems)]

end Document

end Playbook
