import Playbook.Proofs.Session.Turn
import Mathlib.Data.List.Basic
/-!
# Handing a session over

A session has at most one run, and its machine knows whether it may have one: this is `Tenured`. Whatever happens, each
session is handed over in one of four ways, and only one of them is not as it should be; `Handover` lists them. It goes
from the state and the number of runs of one session before a move to those behind it, so moves that are made of several
changes are put together by `trans`, and `Tenured` holds behind whatever hands all sessions over.
-/

namespace Playbook

/-! ### Nested runs -/

def Frame.IsAwaiting (f : Frame) : Prop := ∃ pending next, f.point = .awaiting pending next

/-- The sessions of some runs. -/
def holders (frames : List Frame) : List Nat := frames.map (·.run.session)

/-- The runs of one task, the innermost first; the others wait for the one inside them. -/
structure IsNested (frames : List Frame) : Prop where
  placed : ∀ f ∈ frames, f.IsPlaced
  outer : ∀ f ∈ frames.tail, f.IsAwaiting

section Nested

variable {f g : Frame} {outer : List Frame}

theorem isNested_nil : IsNested [] := ⟨fun _ hf => absurd hf List.not_mem_nil, fun _ hf => absurd hf List.not_mem_nil⟩

theorem IsNested.tail (h : IsNested (f :: outer)) : IsNested outer :=
  ⟨fun f' hf' => h.placed f' (List.mem_cons_of_mem _ hf'), fun f' hf' => h.outer f' (List.mem_of_mem_tail hf')⟩

theorem IsNested.replace (h : IsNested (f :: outer)) (hg : g.IsPlaced) : IsNested (g :: outer) where
  placed := List.forall_mem_cons.2 ⟨hg, h.tail.placed⟩
  outer := h.outer

/-- The step of the innermost run goes on. -/
theorem IsNested.inStep {run : Run} {point : Point} (h : IsNested (⟨run, point⟩ :: outer)) (hpoint : point ≠ .boundary)
    (point' : Point) : IsNested (⟨run, point'⟩ :: outer) :=
  h.replace (.inr ((h.placed _ List.mem_cons_self).resolve_left hpoint))

theorem IsNested.push (h : IsNested (f :: outer)) (hf : f.IsAwaiting) (hg : g.IsPlaced) :
    IsNested (g :: f :: outer) where
  placed := List.forall_mem_cons.2 ⟨hg, h.placed⟩
  outer := List.forall_mem_cons.2 ⟨hf, h.outer⟩

/-- The runs of a task go on when the one inside them is over. -/
theorem IsNested.left (h : IsNested (f :: outer)) (result : Except Failure RunReport) :
    IsNested (Workbench.left outer result) ∧ holders (Workbench.left outer result) = holders outer := by
  rcases outer with _ | ⟨⟨run, point⟩, outer⟩
  · exact ⟨isNested_nil, rfl⟩
  · obtain ⟨pending, next, rfl⟩ : Frame.IsAwaiting ⟨run, point⟩ := h.outer _ List.mem_cons_self
    exact ⟨h.tail.inStep Point.noConfusion _, rfl⟩

end Nested

theorem Machine.KeepsOwner.trans {m m' m'' : Machine} (h : m.KeepsOwner m') (h' : m'.KeepsOwner m'') :
    m.KeepsOwner m'' := ⟨h'.sound, h'.owner.trans h.owner⟩

namespace Workbench

/-! ### Counting runs -/

section Count

variable {allStacks : List (List Frame)} {t : Nat} {frames outer : List Frame} {f : Frame}

/-- Other runs for a task move a count by what goes and what comes. -/
theorem countP_set (p : Frame → Bool) (ht : t < allStacks.length) (frames : List Frame) :
    (allStacks.set t frames).flatten.countP p + (allStacks.getD t []).countP p =
      allStacks.flatten.countP p + frames.countP p := by
  induction allStacks generalizing t with
  | nil => cases ht
  | cons first rest ih =>
      cases t with
      | zero =>
          simp only [List.set_cons_zero, List.flatten_cons, List.countP_append, List.getD_cons_zero]
          omega
      | succ t =>
          have h := ih (Nat.lt_of_succ_lt_succ ht)
          simp only [List.set_cons_succ, List.flatten_cons, List.countP_append, List.getD_cons_succ]
          omega

theorem loops_set (ht : t < allStacks.length) (frames : List Frame) (n : Nat) :
    loops (allStacks.set t frames) n + (holders (allStacks.getD t [])).count n =
      loops allStacks n + (holders frames).count n := by
  have h := countP_set (·.run.session == n) ht frames
  simp only [holders, List.count, List.countP_map]
  exact h

theorem loops_append (n : Nat) : loops (allStacks ++ [frames]) n = loops allStacks n + (holders frames).count n := by
  simp only [loops, holders, List.flatten_append, List.countP_append, List.count, List.countP_map]
  simp [Function.comp_def]

theorem getD_mem (ht : t < allStacks.length) : allStacks.getD t [] ∈ allStacks := by
  rw [List.getD_eq_getElem?_getD, List.getElem?_eq_getElem ht]
  exact List.getElem_mem ht

theorem append_eq_set : allStacks ++ [frames] = (allStacks ++ [[]]).set allStacks.length frames := by
  rw [List.set_append_right _ _ (Nat.le_refl _), Nat.sub_self]
  rfl

theorem one_le_loops (hstack : frames ∈ allStacks) (hf : f ∈ frames) : 1 ≤ loops allStacks f.run.session :=
  List.countP_pos_iff.2 ⟨f, List.mem_flatten.2 ⟨frames, hstack, hf⟩, beq_self_eq_true _⟩

end Count

/-! ### Handing a session over -/

/-- What becomes of a machine and of the number of runs on it; `b` says whether the run may break off. -/
inductive Handover (b : Prop) : Machine × Nat → Machine × Nat → Prop
  | keeps {m m' : Machine} {k : Nat} (h : m.KeepsOwner m') : Handover b (m, k) (m', k)
  | takes {m m' : Machine} (hfree : m.isOwned = false) (hsound : m'.IsSound) (howned : m'.isOwned = true) :
      Handover b (m, 0) (m', 1)
  | releases {m m' : Machine} (howned : m.isOwned = true) (hsound : m'.IsSound) (hfree : m'.isOwned = false) :
      Handover b (m, 1) (m', 0)
  /-- The run is gone, and the machine does not know. -/
  | breaks {m m' : Machine} (h : b) (howned : m.isOwned = true) (hkeeps : m.KeepsOwner m') :
      Handover b (m, 1) (m', 0)

section Handover

variable {b : Prop} {p q r : Machine × Nat}

theorem Handover.trans (h : Handover b p q) (h' : Handover False q r) : Handover b p r := by
  cases h with
  | keeps hkeeps =>
      cases h' with
      | keeps hkeeps' => exact .keeps (hkeeps.trans hkeeps')
      | takes hfree hsound howned => exact .takes (hkeeps.owner.symm.trans hfree) hsound howned
      | releases howned hsound hfree => exact .releases (hkeeps.owner.symm.trans howned) hsound hfree
      | breaks hbroken => exact hbroken.elim
  | takes hfree hsound howned =>
      cases h' with
      | keeps hkeeps => exact .takes hfree hkeeps.sound (hkeeps.owner.trans howned)
      | releases _ hsound' hfree' => exact .keeps ⟨hsound', hfree'.trans hfree.symm⟩
      | breaks hbroken => exact hbroken.elim
  | releases howned hsound hfree =>
      cases h' with
      | keeps hkeeps => exact .releases howned hkeeps.sound (hkeeps.owner.trans hfree)
      | takes _ hsound' howned' => exact .keeps ⟨hsound', howned'.trans howned.symm⟩
  | breaks hbroken howned hkeeps =>
      cases h' with
      | keeps hkeeps' => exact .breaks hbroken howned (hkeeps.trans hkeeps')
      | takes hfree =>
          rw [hkeeps.owner, howned] at hfree
          cases hfree

theorem Handover.imp {b' : Prop} (hb : b → b') (h : Handover b p q) : Handover b' p q := by
  cases h with
  | keeps hkeeps => exact .keeps hkeeps
  | takes hfree hsound howned => exact .takes hfree hsound howned
  | releases howned hsound hfree => exact .releases howned hsound hfree
  | breaks hbroken howned hkeeps => exact .breaks (hb hbroken) howned hkeeps

/-- A sound machine that owns the only run on it is handed over to one that does. -/
theorem Handover.tenured (h : Handover b p q) (hp : p.2 ≤ if p.1.isOwned then 1 else 0) :
    q.1.IsSound ∧ q.2 ≤ if q.1.isOwned then 1 else 0 := by
  cases h with
  | keeps hkeeps => exact ⟨hkeeps.sound, by rw [hkeeps.owner]; exact hp⟩
  | takes _ hsound howned => exact ⟨hsound, by rw [howned]; exact Nat.le_refl 1⟩
  | releases _ hsound _ => exact ⟨hsound, Nat.zero_le _⟩
  | breaks _ _ hkeeps => exact ⟨hkeeps.sound, Nat.zero_le _⟩

end Handover

/-- Machines are sound, and a session has at most one run, which it owns. -/
structure Tenured (s : Sessions) (allStacks : List (List Frame)) : Prop where
  ids : s.IsNumbered
  machines : ∀ n, (s.get n).machine.IsSound
  owners : ∀ n, loops allStacks n ≤ if (s.get n).machine.isOwned then 1 else 0
  nested : ∀ frames ∈ allStacks, IsNested frames

/-- Every session is handed over; `b` holds of the sessions whose run may break off. -/
structure HandsOver (b : Nat → Prop) (s : Sessions) (allStacks : List (List Frame)) (s' : Sessions)
    (allStacks' : List (List Frame)) : Prop where
  ids : s'.IsNumbered
  nested : ∀ frames ∈ allStacks', IsNested frames
  handover : ∀ n, Handover (b n) ((s.get n).machine, loops allStacks n)
    ((s'.get n).machine, loops allStacks' n)

section HandsOver

variable {s s' s'' : Sessions} {allStacks allStacks' allStacks'' : List (List Frame)} {b : Nat → Prop}
  {t n : Nat} {frames outer : List Frame} {f : Frame} {g : Session → Session}

theorem Tenured.pass (h : Tenured s allStacks) (hp : HandsOver b s allStacks s' allStacks') :
    Tenured s' allStacks' where
  ids := hp.ids
  machines n := ((hp.handover n).tenured (h.owners n)).1
  owners n := ((hp.handover n).tenured (h.owners n)).2
  nested := hp.nested

theorem HandsOver.trans (h : HandsOver b s allStacks s' allStacks')
    (h' : HandsOver (fun _ => False) s' allStacks' s'' allStacks'') : HandsOver b s allStacks s'' allStacks'' :=
  ⟨h'.ids, h'.nested, fun n => (h.handover n).trans (h'.handover n)⟩

theorem HandsOver.imp {b' : Nat → Prop} (hb : ∀ n, b n → b' n) (h : HandsOver b s allStacks s' allStacks') :
    HandsOver b' s allStacks s' allStacks' := ⟨h.ids, h.nested, fun n => (h.handover n).imp (hb n)⟩

/-! Every session but one is left alone. -/

theorem Tenured.keeps (h : Tenured s allStacks) (n : Nat) : (s.get n).machine.KeepsOwner (s.get n).machine :=
  ⟨h.machines n, rfl⟩

theorem Tenured.refl (h : Tenured s allStacks) : HandsOver b s allStacks s allStacks :=
  ⟨h.ids, h.nested, fun n => .keeps (h.keeps n)⟩

theorem Tenured.loops_le_one (h : Tenured s allStacks) (n : Nat) : loops allStacks n ≤ 1 := by
  have howners := h.owners n
  split at howners <;> omega

theorem Tenured.owned_of_loops (h : Tenured s allStacks) (hrun : 0 < loops allStacks n) :
    (s.get n).machine.isOwned = true := by
  by_contra hfree
  have howners := h.owners n
  rw [if_neg hfree] at howners
  omega

/-- A run in progress has its session. -/
theorem Tenured.owned (h : Tenured s allStacks) (hstack : frames ∈ allStacks) (hf : f ∈ frames) :
    (s.get f.run.session).machine.isOwned = true ∧ loops allStacks f.run.session = 1 := by
  have hone := one_le_loops hstack hf
  have hle := h.loops_le_one f.run.session
  exact ⟨h.owned_of_loops hone, by omega⟩

theorem Tenured.taken (h : Tenured s allStacks) (hstack : frames ∈ allStacks) (hf : f ∈ frames) :
    (s.get f.run.session).machine.phase.isTaken = true := by
  rw [← h.machines, (h.owned hstack hf).1]

theorem Tenured.update (h : Tenured s allStacks) (hn : n < s.made.length)
    (hnested : ∀ frames ∈ allStacks', IsNested frames) (hother : ∀ m, m ≠ n → loops allStacks' m = loops allStacks m)
    (hself : Handover (b n) ((s.get n).machine, loops allStacks n) ((g (s.get n)).machine, loops allStacks' n)) :
    HandsOver b s allStacks (s.update n g) allStacks' where
  ids p hp := by
    rw [Sessions.length_made_update]
    exact h.ids p hp
  nested := hnested
  handover m := by
    by_cases hm : m = n
    · rw [hm, Sessions.get_update_same s g hn]
      exact hself
    · rw [Sessions.get_update_other s g hm, hother m hm]
      exact .keeps (h.keeps m)

/-- No run is concerned. -/
theorem Tenured.touch (h : Tenured s allStacks) (hn : n < s.made.length)
    (hkeeps : (s.get n).machine.KeepsOwner (g (s.get n)).machine) :
    HandsOver b s allStacks (s.update n g) allStacks :=
  h.update hn h.nested (fun _ _ => rfl) (.keeps hkeeps)

theorem isNested_of_mem_set (h : ∀ frames ∈ allStacks, IsNested frames) (hframes : IsNested frames) :
    ∀ frames' ∈ allStacks.set t frames, IsNested frames' := by
  intro frames' hmem
  rcases List.mem_or_eq_of_mem_set hmem with hmem | rfl
  · exact h frames' hmem
  · exact hframes

/-- The task goes on with runs of the same sessions. -/
theorem Tenured.restack (h : Tenured s allStacks) (ht : t < allStacks.length) (hframes : IsNested frames)
    (hholders : holders frames = holders (allStacks.getD t [])) :
    HandsOver b s allStacks s (allStacks.set t frames) where
  ids := h.ids
  nested := isNested_of_mem_set h.nested hframes
  handover m := by
    have hm := loops_set ht frames m
    rw [hholders, Nat.add_right_cancel_iff] at hm
    rw [hm]
    exact .keeps (h.keeps m)

/-- The innermost run of a task is gone. -/
theorem Tenured.leave (h : Tenured s allStacks) (ht : t < allStacks.length)
    (hstack : allStacks.getD t [] = f :: outer) (hframes : IsNested frames) (hholders : holders frames = holders outer)
    (hself : (s.get f.run.session).machine.isOwned = true →
      Handover (b f.run.session) ((s.get f.run.session).machine, 1) ((g (s.get f.run.session)).machine, 0)) :
    HandsOver b s allStacks (s.update f.run.session g) (allStacks.set t frames) := by
  have hmem : f :: outer ∈ allStacks := hstack ▸ getD_mem ht
  have hf := List.mem_cons_self (a := f) (l := outer)
  obtain ⟨howned, hone⟩ := h.owned hmem hf
  -- The runs of the task are those before without the innermost one, so one session has one run less.
  have hloops : ∀ m, loops (allStacks.set t frames) m + (if f.run.session = m then 1 else 0) = loops allStacks m := by
    intro m
    have hm := loops_set ht frames m
    rw [hstack, hholders, holders, List.map_cons, List.count_cons] at hm
    simp only [beq_iff_eq] at hm
    rw [holders] at hm
    omega
  refine h.update (Sessions.lt_length_of_taken (h.taken hmem hf)) (isNested_of_mem_set h.nested hframes) ?_ ?_
  · intro m hm
    have hcount := hloops m
    rw [if_neg (Ne.symm hm)] at hcount
    exact hcount
  · have hcount := hloops f.run.session
    rw [if_pos rfl, hone] at hcount
    rw [hone, Nat.succ.inj hcount]
    exact hself howned

/-- A run is started, in a task of its own or inside another run. -/
theorem Tenured.take (h : Tenured s allStacks) (ht : t < allStacks.length) (hn : n < s.made.length)
    (hfree : (s.get n).machine.isOwned = false) (hframes : IsNested frames)
    (hholders : holders frames = n :: holders (allStacks.getD t [])) (hsound : (g (s.get n)).machine.IsSound)
    (howned : (g (s.get n)).machine.isOwned = true) :
    HandsOver b s allStacks (s.update n g) (allStacks.set t frames) := by
  have hnone := h.owners n
  rw [hfree, if_neg Bool.false_ne_true] at hnone
  have hloops : ∀ m, loops (allStacks.set t frames) m = loops allStacks m + if n = m then 1 else 0 := by
    intro m
    have hm := loops_set ht frames m
    rw [hholders, List.count_cons] at hm
    simp only [beq_iff_eq] at hm
    omega
  refine h.update hn (isNested_of_mem_set h.nested hframes) ?_ ?_
  · intro m hm
    rw [hloops, if_neg (Ne.symm hm), Nat.add_zero]
  · rw [hloops, if_pos rfl, Nat.le_zero.1 hnone]
    exact .takes hfree hsound howned

theorem Tenured.addSession (h : Tenured s allStacks) {x : Session} (hx : x.machine = .new x.id) :
    HandsOver b s allStacks (s.add x).1 allStacks where
  ids := h.ids.add x
  nested := h.nested
  handover m := by
    rw [Sessions.get_add]
    split
    · rename_i hm
      rw [hm, hx, Sessions.get_of_length_le s (Nat.le_refl _)]
      exact .keeps ⟨Machine.new_isSound x.id, rfl⟩
    · exact .keeps (h.keeps m)

/-- A task without runs concerns nobody. -/
theorem Tenured.addTask (h : Tenured s allStacks) : HandsOver b s allStacks s (allStacks ++ [[]]) where
  ids := h.ids
  nested frames hframes := by
    rcases List.mem_append.1 hframes with hframes | hframes
    · exact h.nested frames hframes
    · rw [List.mem_singleton.1 hframes]
      exact isNested_nil
  handover m := by
    rw [loops_append]
    exact .keeps (h.keeps m)

end HandsOver

/-! ### Commands and starts -/

section Operations

variable {w w' : Workbench} {allStacks : List (List Frame)} {b : Nat → Prop}

theorem Opened.handsOver {id : String} {n : Nat} (h : Tenured w.sessions allStacks) (hopen : Opened w id w' n) :
    HandsOver b w.sessions allStacks w'.sessions allStacks ∧ n < w'.sessions.made.length := by
  refine ⟨?_, hopen.lt_length h.ids⟩
  cases hopen with
  | found hn hw =>
      rw [hw]
      exact h.refl
  | made s hn hs hw hlast =>
      rw [hw]
      refine h.addSession ?_
      rw [(machine_new hs).2, (machine_new hs).1]

theorem Carried.handsOver {c : Command} {es : List Happening} (h : Tenured w.sessions allStacks)
    (hc : Carried w c w' es) : HandsOver b w.sessions allStacks w'.sessions allStacks := by
  cases hc with
  | @pause id n m hn hm =>
      rw [sessions_moved]
      exact h.touch (h.ids.lt_of_number? hn) (Machine.keepsOwner_pause (h.machines n) hm)
  | @resume id n m hn hm =>
      rw [sessions_moved]
      exact h.touch (h.ids.lt_of_number? hn) (Machine.keepsOwner_resume (h.machines n) hm)
  | @stop id n hn =>
      rw [sessions_moved]
      exact h.touch (h.ids.lt_of_number? hn) (Machine.keepsOwner_stop (h.machines n))
  | @reset id clear n m w' hn hm hsessions hstacks =>
      rw [hsessions]
      refine h.touch (h.ids.lt_of_number? hn) ?_
      cases clear with
      | true => exact Machine.keepsOwner_reset (h.machines n) hm
      | false => exact Machine.keepsOwner_reset (h.machines n) hm
  | @close id n w' hn hsessions hstacks =>
      have hremoved : Tenured (w.sessions.remove id) allStacks :=
        ⟨fun p hp => h.ids p (List.mem_of_mem_filter hp), h.machines, h.owners, h.nested⟩
      have hstop := hremoved.touch (b := b) (g := fun s =>
        { s with machine := s.machine.stop.1, highlights := .none }) (h.ids.lt_of_number? hn)
        (Machine.keepsOwner_stop (h.machines n))
      rw [hsessions]
      exact ⟨hstop.ids, hstop.nested, hstop.handover⟩
  | closeUnknown hn => exact h.refl
  | phase hn => exact h.refl

/-- An order that is not carried out leaves the owners alone. -/
theorem Entered.handsOver {o : Order} {f : Failure} (h : Tenured w.sessions allStacks)
    (he : Entered w o w' (.error f)) : HandsOver b w.sessions allStacks w'.sessions allStacks := by
  cases he with
  | unopened hopen => exact h.refl
  | busy hn howned => exact h.refl
  | turnedDown hopen hfree hsessions hstacks =>
      obtain ⟨hpass, hn⟩ := hopen.handsOver h
      have h₀ := h.pass hpass
      rw [hsessions]
      exact hpass.trans (h₀.touch hn (h₀.keeps _))

/-- An order that is carried out takes a session that nobody has. -/
theorem Entered.takes_free {o : Order} {run : Run} (h : Tenured w.sessions allStacks) (he : Entered w o w' (.ok run)) :
    ∃ (w₀ : Workbench) (d : Document), HandsOver b w.sessions allStacks w₀.sessions allStacks ∧
      run.session < w₀.sessions.made.length ∧ (w₀.session run.session).machine.isOwned = false ∧
      w'.sessions = w₀.sessions.update run.session (begun d) := by
  cases he with
  | started hopen hexecutable hfree hidle hsessions hstacks =>
      obtain ⟨hpass, hn⟩ := hopen.handsOver h
      exact ⟨_, _, hpass, hn, hfree, hsessions⟩

end Operations

end Workbench

end Playbook
