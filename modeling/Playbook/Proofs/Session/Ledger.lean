import Playbook.Proofs.Document.Neighbours
import Playbook.Proofs.Session.Registry
import Playbook.Proofs.Session.Stage
import Playbook.Proofs.Skill.Course
/-!
# What a run records

The postings of a history tell what happened to the run of a session, each with the conversation that was selected at
that moment, and a ledger adds up what they mean for one conversation. A run that nobody stops or cancels goes
through its blocks one after the other, and at every moment each conversation is what it was before the run with the
ledger behind it. So the model, too, learns of the ledger: that is what a request has for its history.
-/

namespace Playbook

/-! ### Places -/

/-- Where a run stands among its blocks. -/
inductive Place where
  /-- The block at the index comes next. -/
  | before (i : Nat)
  /-- In the step of the block. -/
  | inside (i : Nat)
  /-- The step of the block failed, and the run is about to leave. -/
  | failed (i : Nat) (f : Failure)
  | gone
deriving DecidableEq

namespace Place

/-- Where the run stands after a happening, if that can happen there. -/
def next (blocks : List Block) : Place → Happening → Option Place
  | before i, .began _ j b =>
    if j = i ∧ blocks[i]? = some b then some (if b.isDirective then inside i else before (i + 1)) else none
  | inside i, .ended _ _ (.ok _) => some (before (i + 1))
  | inside i, .ended _ _ (.error f) => some (failed i f)
  | before i, .left _ (some r) => if blocks.length ≤ i ∧ r.ending = .completed then some gone else none
  | failed i f, .left _ (some r) =>
    if blocks[i]?.map (fun b => Ending.failed b.line f) = some r.ending then some gone else none
  | before i, .paused _ | before i, .resumed _ => some (before i)
  | inside i, .paused _ | inside i, .resumed _ => some (inside i)
  | _, _ => none

/-- Where it stands after some happenings. -/
def along (blocks : List Block) (p : Place) (es : List Happening) : Option Place := es.foldlM (next blocks) p

variable {blocks : List Block} {p p' p'' : Place} {es es' : List Happening}

theorem along_append (h : p.along blocks es = some p') (h' : p'.along blocks es' = some p'') :
    p.along blocks (es ++ es') = some p'' := by
  unfold along at *
  rw [List.foldlM_append, h]
  exact h'

theorem along_cons {e : Happening} (h : p.next blocks e = some p') : p.along blocks (e :: es) = p'.along blocks es := by
  rw [along, List.foldlM_cons, h]
  rfl

theorem along_singleton {e : Happening} (h : p.next blocks e = some p') : p.along blocks [e] = some p' := along_cons h

theorem next_began {n i : Nat} {b : Block} (hb : blocks[i]? = some b) :
    (before i).next blocks (.began n i b) = some (if b.isDirective then inside i else before (i + 1)) :=
  if_pos ⟨rfl, hb⟩

theorem next_completed {n i : Nat} {r : RunReport} (hend : blocks.length ≤ i) (hr : r.ending = .completed) :
    (before i).next blocks (.left n (some r)) = some gone :=
  if_pos ⟨hend, hr⟩

theorem next_failed {n i : Nat} {b : Block} {f : Failure} {r : RunReport} (hb : blocks[i]? = some b)
    (hr : r.ending = .failed b.line f) : (failed i f).next blocks (.left n (some r)) = some gone := by
  refine if_pos ?_
  rw [hb, hr]
  rfl

end Place

/-! ### Ledgers -/

/-- What a happening adds to the conversation that is selected: a step leaves what it queued, and if it succeeded its
messages behind that. -/
def Happening.adds (r : Registry) (blocks : List Block) : Happening → List Message
  | began _ i b => contribution r blocks i b
  | ended _ queued (.ok messages) => queued ++ messages
  | ended _ queued (.error _) => queued
  | started _ | paused _ | resumed _ | stopped _ | left .. => []

/-- A happening, and the conversation that was selected then. -/
structure Posting where
  conversation : WideString
  happening : Happening

/-- All that comes to a conversation. -/
def ledger (r : Registry) (blocks : List Block) (es : List Posting) (name : WideString) : List Message :=
  es.flatMap fun e => if e.conversation = name then e.happening.adds r blocks else []

/-- The happenings of one session. -/
def ofSession (n : Nat) (es : List Happening) : List Happening := es.filter (·.session == n)

section Ledger

variable {r : Registry} {blocks : List Block} {n : Nat} {es : List Happening}

theorem ledger_append (es es' : List Posting) (name : WideString) :
    ledger r blocks (es ++ es') name = ledger r blocks es name ++ ledger r blocks es' name :=
  List.flatMap_append

theorem ledger_map (es : List Happening) (conversation name : WideString) :
    ledger r blocks (es.map (Posting.mk conversation)) name =
      if conversation = name then es.flatMap (·.adds r blocks) else [] := by
  unfold ledger
  rw [List.flatMap_map]
  split
  · rfl
  · exact List.flatMap_eq_nil_iff.2 fun _ _ => rfl

theorem ofSession_of_all (h : ∀ e ∈ es, e.session = n) : ofSession n es = es :=
  List.filter_eq_self.2 fun e he => beq_iff_eq.2 (h e he)

theorem ofSession_of_others (h : ∀ e ∈ es, e.session ≠ n) : ofSession n es = [] :=
  List.filter_eq_nil_iff.2 fun e he heq => h e he (beq_iff_eq.1 heq)

end Ledger

namespace Workbench

/-- What a move means for the run of a session. -/
def postingsOf (w : Workbench) (n : Nat) (m : Move) : List Posting :=
  (ofSession n (w.happenings m)).map (Posting.mk (w.session n).contexts.selected)

def postings (w : Workbench) (n : Nat) : List Move → List Posting
  | [] => []
  | m :: ms => w.postingsOf n m ++ (w.move m).postings n ms

end Workbench

/-! ### Runs that nobody stops -/

/-- The run of the session is stopped or cancelled. -/
def Happening.isCut (n : Nat) : Happening → Bool
  | stopped m | left m none => m == n
  | started _ | began .. | paused _ | resumed _ | ended .. | left _ (some _) => false

namespace Stage

/-- No stop has been accepted. -/
def IsUnstopped : Stage → Prop
  | going p _ => p.isActive = true
  | free | failing _ => True

variable {n : Nat} {st st' : Stage} {es : List Happening}

theorem Step.isUnstopped {e : Happening} (h : Step n st e st') (hst : st.IsUnstopped) (he : e ≠ .stopped n) :
    st'.IsUnstopped := by
  cases h with
  | stopped hp => exact absurd rfl he
  | other h => exact hst
  | ended => exact hst
  | started | began | paused | resumed => rfl
  | raised | leftStopped | leftCompleted | leftFailed | cancelled => trivial

theorem Path.isUnstopped (h : Path n st es st') (hst : st.IsUnstopped) (hes : .stopped n ∉ es) : st'.IsUnstopped := by
  induction h with
  | nil => exact hst
  | cons hstep _ ih =>
      rw [List.mem_cons, not_or] at hes
      exact ih (hstep.isUnstopped hst (Ne.symm hes.1)) hes.2

end Stage

end Playbook
