/-!
# Highlights

The line of the step in progress or of the step that failed, never both.
-/

namespace Playbook

inductive HighlightEvent where
  | current (line : Int)
  | failed (line : Int)
  | clear
deriving Repr, DecidableEq

structure Highlights where
  current : Option Int
  failed : Option Int
deriving Repr, DecidableEq

namespace Highlights

def none : Highlights := ⟨.none, .none⟩

/-- The highlights after an event, whatever they were before. -/
def after : HighlightEvent → Highlights
  | .current line => ⟨some line, .none⟩
  | .failed line => ⟨.none, some line⟩
  | .clear => none

end Highlights

end Playbook
