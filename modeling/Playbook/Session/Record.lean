import Playbook.Conversation.Context
import Playbook.Document.Record
import Playbook.Session.Report
/-!
# Runs as records

Conversations and reports as JSON. Nothing here knows the time, so every duration is nought.
-/

namespace Playbook

namespace Message

def json (m : Message) : Json := .obj [("role", .str m.role.text), ("content", .str m.content)]

end Message

namespace Contexts

def conversationJson (c : WideString × List Message) : Json :=
  .obj [("name", .str c.1), ("messages", .list Message.json c.2)]

def json (c : Contexts) : Json :=
  .obj [("selected", .str c.selected), ("contexts", .list conversationJson c.conversations)]

end Contexts

namespace StepReport

def json (s : StepReport) : Json :=
  .obj [("index", .nat s.index), ("name", .str s.name), ("line", .nat s.line), ("success", .bool s.isSuccess),
    ("messages", .list Message.json s.messages), ("error", .orNull .str s.error), ("execution_time_ms", .int 0)]

end StepReport

namespace RunReport

def json (r : RunReport) : Json :=
  .obj [("success", .bool r.isSuccess), ("final_state", .str r.phase.text), ("steps_executed", .nat r.steps.length),
    ("total_blocks", .nat r.blocks), ("step_results", .list StepReport.json r.steps), ("stopped", .bool r.isStopped),
    ("failed_line", .orNull .nat r.failedLine), ("error", .orNull .str r.error), ("execution_time_seconds", .int 0)]

end RunReport

end Playbook
