import Playbook.Proofs.Document.Adjacency
import Playbook.Proofs.Session.Consistency
import Playbook.Proofs.Session.Outcome
/-!
# Code that a skill was given

Code is left out of the conversation if it was the input of a step. The recorder finds that out by a search backward from
the code, and the skill was given its input by a search forward from the directive. They are about the same block: code
is left out just if the step of some directive before it was shown this very block.
-/

namespace Playbook

/-- The step at `j` is given the block at `i`: the skill of its directive takes the block after it, and this is the one
that the api of the step shows, whatever has become of the session and the host by then. -/
structure Run.Gives (run : Run) (r : Registry) (j i : Nat) : Prop where
  lt : j < i
  takes : ∃ a, run.blocks[j]? = some a ∧ r.TakesNext a
  position : adjacentIndex? run.blocks j 1 = some i
  shown : ∀ run' : Run, run'.blocks = run.blocks → run'.next = j →
    ∀ s h pending, (run'.api s h pending).nextBlock = run.blocks[i]?

/-- The two searches for a neighbour find blocks at positions, and between visible blocks they find each other's start. -/
structure SearchesAgree (blocks : List Block) : Prop where
  found : ∀ i step, adjacentBlock blocks i step = (adjacentIndex? blocks i step).bind (blocks[·]?)
  comm : ∀ i j, visibleAt blocks i = true → visibleAt blocks j = true →
    (adjacentIndex? blocks i (-1) = some j ↔ adjacentIndex? blocks j 1 = some i)

theorem searchesAgree (blocks : List Block) : SearchesAgree blocks where
  found := adjacentBlock_eq_bind blocks
  comm _ _ := adjacentIndex?_comm

section

variable {run : Run} {r : Registry} {i j : Nat}

/-- The api of a step shows the block at which its search ends. -/
theorem Run.nextBlock_api (h : adjacentIndex? run.blocks run.next 1 = some i) (s : Session) (host : Host)
    (pending : List Message) : (run.api s host pending).nextBlock = run.blocks[i]? := by
  change adjacentBlock run.blocks run.next 1 = run.blocks[i]?
  rw [adjacentBlock_eq_bind, h]
  rfl

theorem Run.gives_of_position {a : Block} (ha : run.blocks[j]? = some a) (htakes : r.TakesNext a)
    (h : adjacentIndex? run.blocks j 1 = some i) : run.Gives r j i where
  lt := (adjacentIndex?_forward.1 h).1.lt
  takes := ⟨a, ha, htakes⟩
  position := h
  shown run' hblocks hnext s host pending := by
    subst hnext
    rw [← hblocks] at h ⊢
    exact run'.nextBlock_api h s host pending

theorem visibleAt_of_takesNext {blocks : List Block} {a : Block} (ha : blocks[j]? = some a) (htakes : r.TakesNext a) :
    visibleAt blocks j = true := by
  rw [visibleAt, ha]
  simp [Block.not_isBlank_of_isDirective htakes.1]

/-- A visible block is the payload of a step just if the step was given it. -/
theorem Run.isPayload_iff_gives (hi : visibleAt run.blocks i = true) :
    isPayload r run.blocks i = true ↔ ∃ j, run.Gives r j i := by
  unfold isPayload previousBlock
  rw [adjacentBlock_eq_bind]
  constructor
  · intro h
    cases hsearch : adjacentIndex? run.blocks i (-1) with
    | none =>
        rw [hsearch] at h
        cases h
    | some j =>
        have hj := (adjacentIndex?_backward.1 hsearch).2
        obtain ⟨a, ha, -⟩ := (Option.any_eq_true _ _).1 hj
        rw [hsearch, Option.bind_some, ha] at h
        exact ⟨j, gives_of_position ha (takesNext_iff.1 h) ((adjacentIndex?_comm hi hj).1 hsearch)⟩
  · rintro ⟨j, hgives⟩
    obtain ⟨a, ha, htakes⟩ := hgives.takes
    have hj := visibleAt_of_takesNext ha htakes
    rw [(adjacentIndex?_comm hi hj).2 hgives.position, Option.bind_some, ha]
    exact takesNext_iff.2 htakes

/-- What code adds to the conversation, by whether a step was given it. -/
theorem Run.plainMessages_code {b : Block} (hblock : run.blocks[i]? = some b) (hcode : b.name = Block.codeName) :
    (plainMessages r run.blocks i b = [] ↔ ∃ j, run.Gives r j i) ∧
      (plainMessages r run.blocks i b = [.agent b.content] ↔ ¬∃ j, run.Gives r j i) := by
  have hother : Block.codeName ≠ Block.textName := by decide
  have hvisible : visibleAt run.blocks i = true := by
    simp [visibleAt, hblock, Block.isBlank, hcode, hother]
  rw [← isPayload_iff_gives hvisible, plainMessages, if_neg (hcode ▸ hother), if_pos hcode]
  cases isPayload r run.blocks i <;> simp

/-- A run that keeps its account has carried out the steps that its blocks so far were given to. -/
theorem Run.Gives.carriedOut (h : run.Gives r j i) (haccounts : Frame.Accounts ⟨run, .boundary⟩) (hi : i ≤ run.next) :
    ∃ s ∈ run.steps, s.index = j ∧ s.isSuccess = true := by
  obtain ⟨a, ha, htakes⟩ := h.takes
  have hmem : j ∈ directives run.blocks run.next := by
    refine List.mem_filter.2 ⟨List.mem_range.2 (Nat.lt_of_lt_of_le h.lt hi), ?_⟩
    rw [ha]
    exact htakes.1
  rw [← haccounts.indices] at hmem
  obtain ⟨s, hs, hindex⟩ := List.mem_map.1 hmem
  exact ⟨s, hs, hindex, haccounts.succeeded s hs⟩

end

namespace Workbench

/-- What the turn at the code `b` means for the conversation: the code is recorded unless a step before it was given this
very block, a step that the run has carried out by then; and it comes to the same which of the two searches one asks. -/
structure RecordsCode (w : Workbench) (t : Nat) (run : Run) (b : Block) : Prop where
  contexts : ((w.step t).session run.session).contexts =
    (w.session run.session).contexts.extend (plainMessages w.registry run.blocks run.next b)
  withheld : plainMessages w.registry run.blocks run.next b = [] ↔ ∃ j, run.Gives w.registry j run.next
  recorded : plainMessages w.registry run.blocks run.next b = [.agent b.content] ↔
    ¬∃ j, run.Gives w.registry j run.next
  carriedOut : Frame.Accounts ⟨run, .boundary⟩ → ∀ j, run.Gives w.registry j run.next →
    ∃ s ∈ run.steps, s.index = j ∧ s.isSuccess = true
  searches : SearchesAgree run.blocks

variable {w : Workbench} {t : Nat} {run : Run} {outer : List Frame} {b : Block}

/-- A run that comes to code records it just if no step before it was given it. -/
theorem step_code (hw : w.task t = .ready (⟨run, .boundary⟩ :: outer)) (hblock : run.blocks[run.next]? = some b)
    (hcode : b.name = Block.codeName) (hrunning : (w.session run.session).machine.phase = .running) :
    RecordsCode w t run b := by
  have hplain : b.isDirective = false := by
    rw [Block.isDirective, hcode]
    rfl
  have htaken : (w.session run.session).machine.phase.isTaken = true := by
    rw [hrunning]
    rfl
  have hrecords := step_records hw hblock hplain hrunning
  obtain ⟨hwithheld, hrecorded⟩ := run.plainMessages_code hblock hcode
  refine ⟨?_, hwithheld, hrecorded, fun haccounts j hgives => hgives.carriedOut haccounts (Nat.le_refl _),
    searchesAgree run.blocks⟩
  rw [hrecords.session (Sessions.lt_length_of_taken htaken)]
  rfl

/-- A run goes on behind a directive whose skill is done at once. -/
theorem step_instant {messages : List Message} (hw : w.task t = .ready (⟨run, .boundary⟩ :: outer))
    (hblock : run.blocks[run.next]? = some b) (hdirective : b.isDirective = true) (hcalm : run.observer.IsCalm)
    (hrunning : (w.session run.session).machine.phase = .running)
    (hdone : w.registry.dispatch b.name b.arguments = .finish (.ok messages)) :
    ∃ run', ((w.step t).step t).task t = .ready (⟨run', .boundary⟩ :: outer) ∧ run'.blocks = run.blocks ∧
      run'.next = run.next + 1 ∧ (((w.step t).step t).session run'.session).machine.phase = .running := by
  have hbegins := step_begins hw hblock hdirective hrunning
  have hbegun := hbegins.task
  rw [hdone] at hbegun
  have hsucceeds := step_succeeds hbegun hblock
  refine ⟨(run.addStep (run.stepReport b ([] ++ messages) none)).advance, ?_, rfl, rfl, ?_⟩
  · exact hsucceeds.task.trans (toldTask_of_calm hcalm ..)
  · change (((w.step t).step t).session run.session).machine.phase = .running
    rw [hsucceeds.machine fun _ => rfl, hbegins.machine fun _ => rfl, hrunning]

/-- A skill takes the code after it, and when the run comes to the code it is not recorded. -/
theorem step_code_taken :
    let take : Skill := ⟨"take", "", [], true, fun _ => .finish (.ok .nothing)⟩
    let start : Workbench := .new [("take", take)] .standard none Held.host
    let o : Order := ⟨"s", "@take\n```\nx\n```", .nobody⟩
    ∃ w run b, w = ((start.move (.start o)).step 0).step 0 ∧ w.task 0 = .ready [⟨run, .boundary⟩] ∧
      run.blocks[run.next]? = some b ∧ b.name = Block.codeName ∧
      (w.session run.session).machine.phase = .running ∧
      RecordsCode w 0 run b := by
  intro take start o
  let directive : Block := ⟨"take", [], "@take", 1, 1, some ⟨1, 0, 5⟩, none⟩
  let b : Block := ⟨"plainCodeBlock", [], "x", 2, 4, none, none⟩
  have hblocks : (Document.parse o.text).blocks = [directive, b] := by decide +kernel
  have hentered : (start.enter o).2.toBool = true := by decide +kernel
  obtain ⟨run, hrun⟩ := exists_of_toBool hentered
  have hids : start.sessions.IsNumbered := fun p hp => absurd hp List.not_mem_nil
  obtain ⟨htask, -, hrunning, hregistry, n, rfl⟩ := start_ready hids hrun
  change (start.move (.start o)).task 0 = _ at htask
  have hfirst : (start.ordered n o).blocks[0]? = some directive := congrArg (·[0]?) hblocks
  have hdispatch : start.registry.dispatch directive.name directive.arguments = .finish (.ok []) := rfl
  rw [← hregistry] at hdispatch
  obtain ⟨run, hready, hsame, hnext, hphase⟩ := step_instant htask hfirst rfl nobody_isCalm hrunning hdispatch
  have hblock : run.blocks[run.next]? = some b := by
    rw [hsame, hnext]
    exact congrArg (·[1]?) hblocks
  refine ⟨((start.move (.start o)).step 0).step 0, run, b, rfl, hready, hblock, rfl, hphase, ?_⟩
  exact step_code hready hblock rfl hphase

end Workbench

end Playbook
