import Playbook.Proofs.Session.Boundary
import Playbook.Proofs.Session.Tenure
import Mathlib.Data.List.Nodup
/-!
# What a move does to the runs of a task

Whatever a host does changes the stack of one task at most, and in one of a few ways: the innermost run advances, starts
another run or leaves; a run gets a task of its own; or all runs of the task are gone. `Restacked` lists them, together
with what happens in the move as far as runs start or begin with blocks. What is true of new runs and stays true
when a run advances is true of all runs in every history.
-/

namespace Playbook

/-! ### Runs that advance -/

/-- A run through the blocks of a text, before the first of them. -/
structure Run.IsNew (run : Run) (text : String) : Prop where
  blocks : run.blocks = (Document.parse text).blocks
  next : run.next = 0
  steps : run.steps = []

/-- A run starts, or begins with a block. -/
def Happening.isMark : Happening → Bool
  | started _ | began .. => true
  | paused _ | resumed _ | stopped _ | ended .. | left .. => false

def marks (es : List Happening) : List Happening := es.filter (·.isMark)

/-- What a turn makes of a run that goes on, and how it marks its progress. -/
inductive Frame.Advances (r : Registry) : List Happening → Frame → Frame → Prop
  | records {run : Run} {block : Block} (hblock : run.blocks[run.next]? = some block)
      (hplain : block.isDirective = false) :
      Advances r [.began run.session run.next block] ⟨run, .boundary⟩ ⟨run.advance, .boundary⟩
  | begins {run : Run} {block : Block} (hblock : run.blocks[run.next]? = some block)
      (hdirective : block.isDirective = true) :
      Advances r [.began run.session run.next block] ⟨run, .boundary⟩
        ⟨run, .working [] (r.dispatch block.name block.arguments)⟩
  | succeeds {run : Run} {pending messages : List Message} {block : Block}
      (hblock : run.blocks[run.next]? = some block) :
      Advances r [] ⟨run, .working pending (.finish (.ok messages))⟩
        ⟨(run.addStep (run.stepReport block (pending ++ messages) none)).advance, .boundary⟩
  | inStep {run : Run} {point point' : Point} (hpoint : point.GoesOn point') : Advances r [] ⟨run, point⟩ ⟨run, point'⟩

theorem Frame.Advances.session {r : Registry} {es : List Happening} {f f' : Frame} (h : f.Advances r es f') :
    f'.run.session = f.run.session := by
  cases h with
  | records | begins | succeeds | inStep => rfl

/-- A run marks its own progress only. -/
theorem Frame.Advances.marks_session {r : Registry} {es : List Happening} {f f' : Frame} (h : f.Advances r es f') :
    ∀ e ∈ es, e.session = f.run.session := by
  cases h with
  | records | begins => exact List.forall_mem_singleton.2 rfl
  | succeeds | inStep => exact List.forall_mem_nil _

namespace Workbench

/-! ### What happens in what a host does -/

def HostMove.order? : HostMove → Option Order
  | .move (.start o) | .apart o .. => some o
  | .move _ => none

def occurrences (w : Workbench) : HostMove → List Happening
  | .move m => w.happenings m
  | .apart o root blocksOnly rests =>
    match (w.enterApart o root blocksOnly rests).2 with
    | .ok run => [.started run.session]
    | .error _ => []

def annals (w : Workbench) : List HostMove → List Happening
  | [] => []
  | d :: ds => w.occurrences d ++ (w.serve d).annals ds

theorem annals_append (w : Workbench) (ds ds' : List HostMove) :
    w.annals (ds ++ ds') = w.annals ds ++ (w.following ds).annals ds' := by
  induction ds generalizing w with
  | nil => rfl
  | cons d ds ih =>
      rw [List.cons_append, annals, annals, ih, List.append_assoc]
      rfl

/-- Before and after what a host does, the runs of the task that it concerns. -/
inductive Restacked (w : Workbench) (d : HostMove) : List Happening → List Frame → List Frame → Prop
  | stays {frames : List Frame} : Restacked w d [] frames frames
  | advances {f f' : Frame} {outer : List Frame} {es : List Happening} (h : f.Advances w.registry es f') :
      Restacked w d es (f :: outer) (f' :: outer)
  | pushes {run inner : Run} {pending : List Message} {name text : String}
      {next : Except Failure Answer → Activity (List Message)} {outer : List Frame} (hnew : inner.IsNew text)
      (hobserver : inner.observer = .nobody) (hremembered : inner.isRemembered = true) :
      Restacked w d [.started inner.session] (⟨run, .working pending (.command (.run name text) next)⟩ :: outer)
        (⟨inner, .boundary⟩ :: ⟨run, .awaiting pending next⟩ :: outer)
  | leaves {f : Frame} {outer : List Frame} {es : List Happening} (result : Except Failure RunReport)
      (hes : ∀ e ∈ es, e.session = f.run.session) : Restacked w d es (f :: outer) (left outer result)
  | starts {o : Order} {run : Run} (ho : HostMove.order? d = some o) (hnew : run.IsNew o.text)
      (hopened : ∃ w₀, Opened w o.id w₀ run.session) :
      Restacked w d [.started run.session] [] [⟨run, .boundary⟩]
  | ends {frames : List Frame} : Restacked w d [] frames []

variable {w w' : Workbench} {d : HostMove} {t : Nat} {es : List Happening} {frames frames' outer : List Frame}

/-- One task is all that the move concerns. -/
def Concerns (w : Workbench) (d : HostMove) (w' : Workbench) (es : List Happening) (t : Nat) : Prop :=
  Restacked w d es (w.stack t) (w'.stack t) ∧ ∀ u, u ≠ t → w'.stack u = w.stack u

theorem concerns_refl (h : w'.allStacks = w.allStacks) (t : Nat) : Concerns w d w' [] t := by
  have hstack : ∀ u, w'.stack u = w.stack u := fun u => by rw [stack_eq, h, ← stack_eq]
  refine ⟨?_, fun u _ => hstack u⟩
  rw [hstack]
  exact .stays

theorem concerns_set (ht : t < w.allStacks.length) (h : w'.allStacks = w.allStacks.set t frames')
    (hframes : Restacked w d es (w.stack t) frames') : Concerns w d w' es t := by
  refine ⟨?_, fun u hu => stack_of_set_other hu h⟩
  rw [stack_of_set ht h]
  exact hframes

/-- A new task. -/
theorem concerns_append (h : w'.allStacks = w.allStacks ++ [frames']) (hframes : Restacked w d es [] frames') :
    Concerns w d w' es w.allStacks.length := by
  constructor
  · have hnone : w.stack w.allStacks.length = [] := by simp [stack_eq]
    have hnew : w'.stack w.allStacks.length = frames' := by simp [stack_eq, h]
    rw [hnone, hnew]
    exact hframes
  · intro u hu
    rw [stack_eq, stack_eq, h, List.getD_eq_getElem?_getD, List.getD_eq_getElem?_getD]
    rcases Nat.lt_or_ge u w.allStacks.length with hlt | hge
    · rw [List.getElem?_append_left hlt]
    · rw [List.getElem?_eq_none (by simp; omega), List.getElem?_eq_none hge]

/-! ### Turns -/

section Turns

variable {run : Run} {point : Point}

theorem Entered.isNew {o : Order} {inner : Run} (h : Entered w o w' (.ok inner)) :
    inner.IsNew o.text ∧ inner.observer = o.observer ∧ inner.isRemembered = true ∧
      ∃ w₀, Opened w o.id w₀ inner.session := by
  cases h with
  | started hopen => exact ⟨⟨rfl, rfl, rfl⟩, rfl, rfl, _, hopen⟩

theorem marks_carried {c : Command} (h : Carried w c w' es) : marks es = [] := by
  cases h with
  | stop hn | close hn hsessions hstacks =>
      split
      · rfl
      · rfl
  | pause | resume | reset | closeUnknown | phase => rfl

/-- The innermost run of a task does something. -/
theorem Tenured.concerns (h : Tenured w.sessions w.allStacks) {f : Frame} (hw : w.task t = .ready (f :: outer))
    (hstacks : w'.allStacks = w.allStacks.set t frames') (hframes : Restacked w d es (f :: outer) frames') :
    Concerns w d w' es t := by
  obtain ⟨ht, -, -, -⟩ := h.stack (stack_of_ready hw)
  refine concerns_set ht hstacks ?_
  rw [stack_of_ready hw]
  exact hframes

/-- A run that told its observer of a block goes on or leaves. -/
theorem Tenured.concerns_told (h : Tenured w.sessions w.allStacks) {f' : Frame}
    (hw : w.task t = .ready (⟨run, point⟩ :: outer))
    (hstacks : w'.allStacks = w.allStacks.set t (toldTask run outer (.ready (f' :: outer))).frames)
    (hadvances : Frame.Advances w.registry es ⟨run, point⟩ f') (hes : ∀ e ∈ es, e.session = run.session) :
    Concerns w d w' es t := by
  unfold toldTask at hstacks
  cases hf : run.observer.failure? .progress with
  | none =>
      rw [hf] at hstacks
      exact h.concerns hw hstacks (.advances hadvances)
  | some fault =>
      rw [hf] at hstacks
      exact h.concerns hw (hstacks.trans (by rw [frames_leftTask])) (.leaves (.error fault) hes)

theorem Turn.concerns (h : Tenured w.sessions w.allStacks) (hturn : Turn w t w' es) :
    Concerns w d w' (marks es) t := by
  have hleave : ∀ {f : Frame} {outer : List Frame} {result : Except Failure RunReport},
      w.task t = .ready (f :: outer) → w'.allStacks = w.allStacks.set t (leftTask outer result).frames →
      Concerns w d w' [] t := fun hw hstacks =>
    h.concerns hw (hstacks.trans (by rw [frames_leftTask])) (.leaves _ (List.forall_mem_nil _))
  cases hturn with
  | rests hsessions hstacks => exact concerns_refl hstacks t
  | stops hw hphase hchanges => exact hleave hw hchanges.allStacks
  | completes hw hend hactive hchanges => exact hleave hw hchanges.allStacks
  | fails hw hblock hchanges => exact hleave hw hchanges.allStacks
  | records hw hblock hplain hrunning hchanges =>
      exact h.concerns_told hw hchanges.allStacks (.records hblock hplain) (List.forall_mem_singleton.2 rfl)
  | begins hw hblock hdirective hrunning hchanges =>
      exact h.concerns hw hchanges.allStacks (.advances (.begins hblock hdirective))
  | succeeds hw hblock hchanges =>
      exact h.concerns_told hw hchanges.allStacks (.succeeds hblock) (List.forall_mem_nil _)
  | works hw hwork hchanges hhost =>
      have hstacks := hchanges.allStacks
      exact h.concerns hw hstacks (.advances (.inStep (.works rfl hwork)))
  | waits hw hchanges => exact h.concerns hw hchanges.allStacks (.advances (.inStep .passes))
  | enters hw hentered hsessions hstacks =>
      obtain ⟨hnew, hobserver, hremembered, -⟩ := hentered.isNew
      exact h.concerns hw hstacks (.pushes hnew hobserver hremembered)
  | turnedAway hw hentered hsessions hstacks => exact h.concerns hw hstacks (.advances (.inStep .learns))
  | commands hw hcarried hsessions hstacks =>
      rw [marks_carried hcarried]
      exact h.concerns hw hstacks (.advances (.inStep .learns))
  | refused hw hchanges => exact h.concerns hw hchanges.allStacks (.advances (.inStep .learns))

end Turns

/-! ### Every move -/

theorem enterApart_isNew {o : Order} {root : Path} {blocksOnly rests : Bool} {run : Run}
    (h : w.enterApart o root blocksOnly rests = (w', .ok run)) :
    run.IsNew o.text ∧ ∃ w₀, Opened w o.id w₀ run.session := by
  unfold enterApart at h
  split at h
  · cases h
  · rename_i v n hopen
    have hstarted : ∃ v', v.start n ⟨n, (Document.parse o.text).blocks, 0, [], root, false, o.observer, false, rests⟩
        = .ok (v', run) := by
      dsimp only at h
      split at h
      · rename_i v' run' hstart
        cases h
        cases blocksOnly with
        | true => exact ⟨_, hstart⟩
        | false =>
            obtain ⟨u, -, hstart⟩ := bind_eq_ok hstart
            exact ⟨_, hstart⟩
      · cases h
    obtain ⟨v', hstart⟩ := hstarted
    obtain ⟨rfl, -⟩ := start_eq_ok hstart
    exact ⟨⟨rfl, rfl, rfl⟩, v, opened_of_ok hopen⟩

theorem apart_concerns (w : Workbench) (o : Order) (root : Path) (blocksOnly rests : Bool) :
    Concerns w (.apart o root blocksOnly rests) (w.serve (.apart o root blocksOnly rests))
      (marks (w.occurrences (.apart o root blocksOnly rests))) w.allStacks.length := by
  have herror : ∀ (v : Workbench) (f : Failure), (v.addTask (.error f)).1.allStacks = v.allStacks ++ [[]] :=
    fun v f => List.map_append
  rw [serve_apart, occurrences]
  rcases enterApart_cases w o root blocksOnly rests with ⟨f, hf⟩ | ⟨w₀, n, hopened, ⟨f, hf⟩ | hstarted⟩
  · rw [hf]
    exact concerns_append (herror w f) .stays
  · rw [hf]
    exact concerns_append (hopened.allStacks ▸ herror w₀ f) .stays
  · obtain ⟨w₁, run, hrun, -, -, hstacks, -⟩ := hstarted
    have hadded : (w₁.addTask (.ok run)).1.allStacks = w.allStacks ++ [[⟨run, .boundary⟩]] := by
      rw [← hstacks]
      exact List.map_append
    rw [hrun]
    obtain ⟨hnew, hopened'⟩ := enterApart_isNew hrun
    exact concerns_append hadded (.starts rfl hnew hopened')

theorem start_concerns (w : Workbench) (o : Order) :
    Concerns w (.move (.start o)) (w.move (.start o)) (marks (w.admitted o)) w.allStacks.length := by
  rcases start_cases w o with ⟨f, w₁, hentered, hnone, -, hstacks⟩ | ⟨run, w₁, hentered, hone, -, hstacks⟩
  · rw [hnone]
    exact concerns_append hstacks .stays
  · rw [hone]
    obtain ⟨hnew, -, -, hopened⟩ := hentered.isNew
    exact concerns_append hstacks (.starts rfl hnew hopened)

theorem cancel_concerns (h : Tenured w.sessions w.allStacks) (t : Nat) :
    Concerns w (.move (.cancel t)) (w.cancel t).1 [] t := by
  rcases cancel_eq w t with ⟨-, hw⟩ | ⟨ht, v, hsessions, hstacks, hw⟩
  · rw [hw]
    exact concerns_refl rfl t
  · rw [← set_stack w t, ← hsessions] at h
    obtain ⟨-, hrest⟩ := abandon_all_handsOver ht h
    rw [hw]
    exact concerns_set ht (hrest.trans hstacks) .ends

theorem marks_left (frames : List Frame) : marks (frames.map fun f => .left f.run.session none) = [] := by
  induction frames with
  | nil => rfl
  | cons f frames ih => exact ih

/-- Whatever a host does concerns one task at most. -/
theorem serve_concerns (h : Tenured w.sessions w.allStacks) (d : HostMove) :
    ∃ t, Concerns w d (w.serve d) (marks (w.occurrences d)) t := by
  cases d with
  | apart o root blocksOnly rests => exact ⟨_, apart_concerns w o root blocksOnly rests⟩
  | move m =>
      have hrefl : (w.move m).allStacks = w.allStacks → marks (w.happenings m) = [] →
          ∃ t, Concerns w (.move m) (w.move m) (marks (w.happenings m)) t := by
        intro hstacks hmarks
        rw [hmarks]
        exact ⟨0, concerns_refl hstacks 0⟩
      change ∃ t, Concerns w (.move m) (w.move m) (marks (w.happenings m)) t
      cases m with
      | turn t => exact ⟨t, (h.turn t).concerns h⟩
      | rouse => exact hrefl (move_rouse w).2 rfl
      | request c =>
          rcases move_request w c with hcarried | ⟨hw, hnone⟩
          · exact hrefl hcarried.allStacks (marks_carried hcarried)
          · exact hrefl (by rw [hw]) (congrArg marks hnone)
      | start o => exact ⟨_, start_concerns w o⟩
      | openSession id =>
          rcases move_openSession w id with ⟨n, hopened⟩ | hw
          · exact hrefl hopened.allStacks rfl
          · exact hrefl (by rw [hw]) rfl
      | parse id text =>
          rcases move_parse w id text with ⟨w₀, n, hopened, hstacks, hsessions⟩ | hw
          · exact hrefl hstacks rfl
          · exact hrefl (by rw [hw]) rfl
      | release gate => exact hrefl (move_release w gate).2 rfl
      | cancel t =>
          refine ⟨t, ?_⟩
          rw [happenings, marks_left]
          exact cancel_concerns h t

/-! ### Runs apart from each other -/

/-- The runs of a task have different sessions. -/
theorem Tenured.holders_nodup (h : Tenured w.sessions w.allStacks) (t : Nat) : (holders (w.stack t)).Nodup := by
  rw [List.nodup_iff_count_le_one]
  intro n
  rw [stack_eq]
  rcases Nat.lt_or_ge t w.allStacks.length with ht | ht
  · rw [holders, List.count, List.countP_map]
    exact Nat.le_trans ((List.sublist_flatten_of_mem (getD_mem ht)).countP_le) (h.loops_le_one n)
  · rw [List.getD_eq_getElem?_getD, List.getElem?_eq_none ht]
    exact Nat.zero_le _

/-- So have the runs of different tasks. -/
theorem Tenured.session_ne (h : Tenured w.sessions w.allStacks) {u : Nat} (hu : u ≠ t) {f g : Frame}
    (hf : f ∈ w.stack t) (hg : g ∈ w.stack u) : g.run.session ≠ f.run.session := by
  intro hsession
  obtain ⟨top, outer, hstack⟩ := List.exists_cons_of_ne_nil (List.ne_nil_of_mem hf)
  obtain ⟨ht, -, -, -⟩ := h.stack hstack
  have hcount := countP_set (fun k : Frame => k.run.session == f.run.session) ht []
  have hrest : 1 ≤ loops (w.allStacks.set t []) f.run.session := by
    rw [stack_eq] at hg
    have hlt : u < w.allStacks.length := by
      by_contra hge
      rw [List.getD_eq_getElem?_getD, List.getElem?_eq_none (Nat.le_of_not_lt hge)] at hg
      cases hg
    have hsame : (w.allStacks.set t []).getD u [] = w.allStacks.getD u [] := by
      rw [List.getD_eq_getElem?_getD, List.getElem?_set_ne (Ne.symm hu), ← List.getD_eq_getElem?_getD]
    have hmem : w.allStacks.getD u [] ∈ w.allStacks.set t [] := by
      rw [← hsame]
      exact getD_mem (by rwa [List.length_set])
    rw [← hsession]
    exact one_le_loops hmem hg
  have hself : 1 ≤ (w.allStacks.getD t []).countP fun k => k.run.session == f.run.session := by
    rw [← stack_eq]
    exact List.countP_pos_iff.2 ⟨f, hf, beq_self_eq_true _⟩
  have hle := h.loops_le_one f.run.session
  unfold loops at hle hrest
  rw [List.countP_nil] at hcount
  omega

/-! ### What holds of all runs -/

/-- What holds of the run outside a run that leaves. -/
theorem forall_left {q : Frame → Prop}
    (hq : ∀ {run point point'}, q ⟨run, point⟩ → point.GoesOn point' → q ⟨run, point'⟩) (houter : ∀ f ∈ outer, q f)
    (result : Except Failure RunReport) : ∀ f ∈ left outer result, q f := by
  unfold left
  split
  · rename_i run pending next outer
    obtain ⟨hfirst, hrest⟩ := List.forall_mem_cons.1 houter
    exact List.forall_mem_cons.2 ⟨hq hfirst .returns, hrest⟩
  · nofun

/-- What holds of new runs and of a run that advances holds of all runs after the move. -/
theorem Restacked.forall {q : Frame → Prop} (h : Restacked w d es frames frames')
    (hnew : ∀ o run, HostMove.order? d = some o → run.IsNew o.text → (∃ w₀, Opened w o.id w₀ run.session) →
      q ⟨run, .boundary⟩)
    (hinner : ∀ run pending name text next inner, q ⟨run, .working pending (.command (.run name text) next)⟩ →
      inner.IsNew text → q ⟨inner, .boundary⟩)
    (hadvances : ∀ es f f', q f → f.Advances w.registry es f' → q f') (hframes : ∀ f ∈ frames, q f) :
    ∀ f ∈ frames', q f := by
  cases h with
  | stays => exact hframes
  | advances h =>
      obtain ⟨hfirst, hrest⟩ := List.forall_mem_cons.1 hframes
      exact List.forall_mem_cons.2 ⟨hadvances _ _ _ hfirst h, hrest⟩
  | pushes h =>
      obtain ⟨hfirst, hrest⟩ := List.forall_mem_cons.1 hframes
      exact List.forall_mem_cons.2 ⟨hinner _ _ _ _ _ _ hfirst h,
        List.forall_mem_cons.2 ⟨hadvances _ _ _ hfirst (.inStep .awaits), hrest⟩⟩
  | leaves result hes =>
      exact forall_left (fun hq hpoint => hadvances _ _ _ hq (.inStep hpoint)) (List.forall_mem_cons.1 hframes).2 result
  | starts ho h hopened => exact List.forall_mem_cons.2 ⟨hnew _ _ ho h hopened, nofun⟩
  | ends => exact List.forall_mem_nil _

/-! ### Tallies of runs -/

/-- A tally that is kept for each session apart and that only marks change. -/
structure IsTally {β : Type} (hear : Nat → β → Happening → β) : Prop where
  others : ∀ {n x e}, e.session ≠ n → hear n x e = x
  unmarked : ∀ {n x e}, e.isMark = false → hear n x e = x

/-- What the run of a frame has to do with the tally of its session: a new run starts it, and a run that advances goes on
with it. -/
structure Tallied {β : Type} (r : Registry) (hear : Nat → β → Happening → β) (q : Frame → β → Prop) : Prop where
  new : ∀ {run text x}, run.IsNew text → q ⟨run, .boundary⟩ (hear run.session x (.started run.session))
  advances : ∀ {es f f' x}, f.Advances r es f' → q f x → q f' (es.foldl (hear f.run.session) x)

section Tally

variable {β : Type} {hear : Nat → β → Happening → β} {q : Frame → β → Prop} {x : β} {n : Nat}

theorem IsTally.foldl_marks (h : IsTally hear) (n : Nat) (x : β) (es : List Happening) :
    (marks es).foldl (hear n) x = es.foldl (hear n) x := by
  induction es generalizing x with
  | nil => rfl
  | cons e es ih =>
      rw [List.foldl_cons, ← ih, marks, List.filter_cons]
      split
      · rfl
      · rename_i hmark
        rw [h.unmarked (Bool.eq_false_iff.2 hmark)]
        rfl

theorem IsTally.foldl_others (h : IsTally hear) (hes : ∀ e ∈ es, e.session ≠ n) : es.foldl (hear n) x = x := by
  induction es with
  | nil => rfl
  | cons e es ih =>
      obtain ⟨he, hes⟩ := List.forall_mem_cons.1 hes
      rw [List.foldl_cons, h.others he, ih hes]

/-- Marks belong to the innermost run before or after the move. -/
theorem Restacked.session_mem (h : Restacked w d es frames frames') :
    ∀ e ∈ es, e.session ∈ holders frames ∨ e.session ∈ holders frames' := by
  cases h with
  | stays | ends => exact List.forall_mem_nil _
  | advances h =>
      intro e he
      rw [h.marks_session e he]
      exact .inl List.mem_cons_self
  | pushes | starts => exact List.forall_mem_singleton.2 (.inr List.mem_cons_self)
  | leaves result hes =>
      intro e he
      rw [hes e he]
      exact .inl List.mem_cons_self

theorem Restacked.tallies (h : Restacked w d es frames frames') (htally : IsTally hear) (htallied : Tallied w.registry hear q)
    (x : Nat → β) (hframes : ∀ f ∈ frames, q f (x f.run.session)) (hnodup : (holders frames).Nodup)
    (hnodup' : (holders frames').Nodup) :
    ∀ f ∈ frames', q f (es.foldl (hear f.run.session) (x f.run.session)) := by
  -- The runs outside the one that marks its progress have other sessions.
  have hothers : ∀ {n : Nat} {outer : List Frame}, (∀ e ∈ es, e.session = n) → n ∉ holders outer →
      (∀ f ∈ outer, q f (x f.run.session)) →
      ∀ f ∈ outer, q f (es.foldl (hear f.run.session) (x f.run.session)) := by
    intro n outer hes hn houter f hf
    rw [htally.foldl_others fun e he hsession => hn ?_]
    · exact houter f hf
    · rw [← hes e he, hsession]
      exact List.mem_map_of_mem hf
  cases h with
  | stays => exact hframes
  | ends => exact List.forall_mem_nil _
  | advances h =>
      obtain ⟨hfirst, hrest⟩ := List.forall_mem_cons.1 hframes
      refine List.forall_mem_cons.2 ⟨?_, hothers h.marks_session (List.nodup_cons.1 hnodup).1 hrest⟩
      rw [h.session]
      exact htallied.advances h hfirst
  | @pushes run inner pending name text next outer hnew hobserver hremembered =>
      obtain ⟨hfirst, hrest⟩ := List.forall_mem_cons.1 hframes
      refine List.forall_mem_cons.2 ⟨htallied.new hnew, hothers (List.forall_mem_singleton.2 rfl)
        (List.nodup_cons.1 hnodup').1 (List.forall_mem_cons.2 ⟨?_, hrest⟩)⟩
      exact htallied.advances (.inStep .awaits) hfirst
  | leaves result hes =>
      obtain ⟨-, hrest⟩ := List.forall_mem_cons.1 hframes
      exact forall_left (fun hq hpoint => htallied.advances (.inStep hpoint) hq)
        (hothers hes (List.nodup_cons.1 hnodup).1 hrest) result
  | starts ho hnew hopened => exact List.forall_mem_singleton.2 (htallied.new hnew)

/-- Whatever a host does, all runs go on with their tallies. -/
theorem serve_tallies (h : Tenured w.sessions w.allStacks) (htally : IsTally hear) (htallied : Tallied w.registry hear q)
    (hq : ∀ t, ∀ f ∈ w.stack t, q f (es.foldl (hear f.run.session) x)) (d : HostMove) :
    ∀ t, ∀ f ∈ (w.serve d).stack t, q f ((es ++ w.occurrences d).foldl (hear f.run.session) x) := by
  obtain ⟨t, hrestacked, hothers⟩ := serve_concerns h d
  have h' := h.pass (serve_handsOver h d)
  intro u f hf
  rw [List.foldl_append, ← htally.foldl_marks]
  by_cases hu : u = t
  · subst hu
    exact hrestacked.tallies htally htallied (fun n => es.foldl (hear n) x) (hq u) (h.holders_nodup u)
      (h'.holders_nodup u) f hf
  · rw [htally.foldl_others]
    · rw [hothers u hu] at hf
      exact hq u f hf
    · intro e he hsession
      rcases hrestacked.session_mem e he with hmem | hmem
      · obtain ⟨g, hg, hgsession⟩ := List.mem_map.1 hmem
        rw [hothers u hu] at hf
        exact h.session_ne hu hg hf (hsession.symm.trans hgsession.symm)
      · obtain ⟨g, hg, hgsession⟩ := List.mem_map.1 hmem
        exact h'.session_ne hu hg hf (hsession.symm.trans hgsession.symm)

end Tally

end Workbench

end Playbook
