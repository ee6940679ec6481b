import Playbook.Proofs.Document.Readings
import Playbook.Proofs.Session.Consistency
/-!
# Directives are carried out

A directive is told from a plain block by its name alone, and three names are those of plain blocks. So a directive
with any other name goes to the registry when a run comes to it, and nothing else does; a directive with one of the
three is taken for the plain block of that name.
-/

namespace Playbook

/-- The name is not that of a plain block. -/
def Block.IsTellable (b : Block) : Prop := b.position.isSome = true → b.name ∉ plainNames

/-- The names of plain blocks are all that stands between a directive and its being taken for one. -/
theorem Document.isDirective_iff {text : String} {b : Block} (h : b ∈ (parse text).blocks) :
    (b.isDirective = true ↔ b.position.isSome = true) ↔ b.IsTellable := by
  obtain ⟨k, first, rest, -, hread⟩ := exists_of_mem_blocks h
  rcases readBlock_kind hread with ⟨-, hdirective⟩ | hplain
  · have hposition := Directive.position_of_read hdirective
    simp [Block.isDirective, Block.IsTellable, hposition]
  · simp [Block.isDirective, Block.IsTellable, hplain.name, hplain.position]

theorem Registry.dispatch_of_none {r : Registry} {name : String} (h : r.get? name = none) (args : Arguments) :
    r.dispatch name args = .finish (.error (.unknownSkill name r.names)) := by
  rw [dispatch, h]

namespace Workbench

/-- The step sets out to do what the registry has for the name of the block, and nothing is recorded. A name that is
not registered fails the step and the run with it. -/
structure Dispatches (w : Workbench) (t : Nat) (run : Run) (outer : List Frame) (b : Block) : Prop where
  task : (w.step t).task t = .ready (⟨run, .working [] (w.registry.dispatch b.name b.arguments)⟩ :: outer)
  contexts : ((w.step t).session run.session).contexts = (w.session run.session).contexts
  unknown : w.registry.get? b.name = none → ((w.step t).step t).task t = leftTask outer
    (run.told .error ((run.addStep (run.stepReport b [] (some (.unknownSkill b.name w.registry.names)))).report
      (.failed b.line (.unknownSkill b.name w.registry.names)) .failed))

/-- The run leaves the block behind at once. -/
def Passes (w : Workbench) (t : Nat) (run : Run) (outer : List Frame) : Prop :=
  (w.step t).task t = toldTask run outer (.ready (⟨run.advance, .boundary⟩ :: outer))

section Step

variable {w : Workbench} {t : Nat} {run : Run} {outer : List Frame} {b : Block}

theorem step_dispatches (hw : w.task t = .ready (⟨run, .boundary⟩ :: outer)) (hblock : run.blocks[run.next]? = some b)
    (hdirective : b.isDirective = true) (hrunning : (w.session run.session).machine.phase = .running) :
    w.Dispatches t run outer b := by
  have hbegins := step_begins hw hblock hdirective hrunning
  have htaken : (w.session run.session).machine.phase.isTaken = true := by
    rw [hrunning]
    rfl
  refine ⟨hbegins.task, ?_, fun hnone => ?_⟩
  · rw [hbegins.session (Sessions.lt_length_of_taken htaken)]
  · have htask := hbegins.task
    rw [Registry.dispatch_of_none hnone] at htask
    refine (step_fails htask hblock ?_).task
    rw [hbegins.machine fun _ => rfl]
    exact htaken

/-- A block counts as a directive just if it is one, unless it is one with the name of a plain block. Then a run that
comes to it dispatches it under its name if it is a directive, and passes it if it is not. -/
theorem step_of_parsed (text : String) (hmem : b ∈ (Document.parse text).blocks) :
    ((b.isDirective = true ↔ b.position.isSome = true) ↔ b.IsTellable) ∧
      (b.IsTellable → ∀ (w : Workbench) (t : Nat) (run : Run) (outer : List Frame),
        w.task t = .ready (⟨run, .boundary⟩ :: outer) → run.blocks[run.next]? = some b →
        (w.session run.session).machine.phase = .running →
        if b.position.isSome then w.Dispatches t run outer b else w.Passes t run outer) := by
  refine ⟨Document.isDirective_iff hmem, fun hname w t run outer hw hblock hrunning => ?_⟩
  have hiff := (Document.isDirective_iff hmem).2 hname
  split
  · rename_i hposition
    exact step_dispatches hw hblock (hiff.2 hposition) hrunning
  · rename_i hposition
    have hplain : b.isDirective = false := Bool.eq_false_iff.2 fun hdirective => hposition (hiff.1 hdirective)
    exact (step_records hw hblock hplain hrunning).task

end Step

/-- A directive whose name nobody registered. -/
theorem step_of_parsed_gone :
    let o : Order := ⟨"s", "@gone", .nobody⟩
    let b : Block := ⟨"gone", [], "@gone", 1, 1, some ⟨1, 0, 5⟩, none⟩
    b ∈ (Document.parse o.text).blocks ∧ b.IsTellable ∧ ∃ run,
      (Held.bench.enter o).2 = .ok run ∧ (Held.bench.move (.start o)).task 0 = .ready [⟨run, .boundary⟩] ∧
        run.blocks[run.next]? = some b ∧
        ((Held.bench.move (.start o)).session run.session).machine.phase = .running ∧
        (Held.bench.move (.start o)).Dispatches 0 run [] b := by
  intro o b
  have hmem : b ∈ (Document.parse o.text).blocks := by decide +kernel
  have hname : b.IsTellable := fun _ => by decide
  have hfirst : (Document.parse o.text).blocks[0]? = some b := by decide +kernel
  have hentered : (Held.bench.enter o).2.toBool = true := by decide +kernel
  refine ⟨hmem, hname, ?_⟩
  obtain ⟨run, hrun⟩ := exists_of_toBool hentered
  have hids : Held.bench.sessions.IsNumbered := fun p hp => absurd hp List.not_mem_nil
  obtain ⟨htask, -, hrunning, -, n, rfl⟩ := start_ready hids hrun
  exact ⟨_, hrun, htask, hfirst, hrunning, (step_of_parsed o.text hmem).2 hname _ _ _ _ htask hfirst hrunning⟩

/-- A directive with the name of plain text is no directive to a run. -/
theorem not_step_of_plainText :
    ¬∀ text, ∀ b ∈ (Document.parse text).blocks, b.isDirective = true ↔ b.position.isSome = true := by
  intro h
  have hmem : (⟨"plainText", [], "@plainText", 1, 1, some ⟨1, 0, 10⟩, none⟩ : Block) ∈
      (Document.parse "@plainText").blocks := by decide +kernel
  have hiff := h "@plainText" _ hmem
  revert hiff
  decide

end Workbench

end Playbook
