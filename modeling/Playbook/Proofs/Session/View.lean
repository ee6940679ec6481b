import Playbook.Session.Workbench
import Mathlib.Tactic.ByContra
/-!
# What a workbench shows

Proofs about runs look at two things only: the sessions, and the stacks, which are the runs in progress of
each task, the innermost one first. Whether a task is ready, waits or is paused, whose turn it is and what was
logged does not show. Every operation of the workbench is described here by what it does to the two; a change
of a session is an `update`, and updates of one session compose.
-/

namespace Playbook

/-! ### Sessions -/

namespace Sessions

def update (s : Sessions) (n : Nat) (f : Session → Session) : Sessions := s.set n (f (s.get n))

variable (s : Sessions) (n m : Nat) (f g : Session → Session)

@[simp] theorem length_made_update : (s.update n f).made.length = s.made.length := List.length_set

theorem get_update : (s.update n f).get m = if m = n ∧ n < s.made.length then f (s.get n) else s.get m := by
  simp only [get, update, set, List.getD_eq_getElem?_getD, List.getElem?_set]
  by_cases hm : n = m
  · subst hm
    by_cases hn : n < s.made.length
    · simp [hn]
    · simp [hn]
  · simp [hm, Ne.symm hm]

theorem get_update_same {n : Nat} (hn : n < s.made.length) : (s.update n f).get n = f (s.get n) := by
  rw [get_update, if_pos ⟨rfl, hn⟩]

theorem get_update_other {n m : Nat} (hm : m ≠ n) : (s.update n f).get m = s.get m := by
  rw [get_update, if_neg fun h => hm h.1]

/-- A number beyond the last session has nothing to update. -/
theorem update_of_length_le {n : Nat} (hn : s.made.length ≤ n) : s.update n f = s := by
  simp only [update, set, List.set_eq_of_length_le hn]

@[simp] theorem update_update : (s.update n f).update n g = s.update n (g ∘ f) := by
  rcases Nat.lt_or_ge n s.made.length with hn | hn
  · rw [update, get_update_same s f hn]
    simp [update, set]
  · rw [update_of_length_le s _ hn, update_of_length_le s _ hn, update_of_length_le s _ hn]

/-- Only what an update makes of the session itself counts. -/
theorem update_congr {f g : Session → Session} (h : f (s.get n) = g (s.get n)) : s.update n f = s.update n g := by
  rw [update, update, h]

theorem update_id : s.update n id = s := by
  rcases Nat.lt_or_ge n s.made.length with hn | hn
  · simp [update, set, get, hn]
  · exact update_of_length_le s id hn

/-- What every update keeps of a session stays as it was. -/
theorem apply_get_update {α : Type} (p : Session → α) (hf : ∀ s, p (f s) = p s) :
    p ((s.update n f).get m) = p (s.get m) := by
  rw [get_update]
  split
  · rename_i h
    rw [hf, h.1]
  · rfl

@[simp] theorem length_made_add (x : Session) : (s.add x).1.made.length = s.made.length + 1 := List.length_append

/-- A session that is added has the number after the last one. -/
theorem get_add (x : Session) : (s.add x).1.get m = if m = s.made.length then x else s.get m := by
  simp only [get, add, List.getD_eq_getElem?_getD, List.getElem?_append]
  rcases Nat.lt_trichotomy m s.made.length with hm | rfl | hm
  · rw [if_pos hm, if_neg (Nat.ne_of_lt hm)]
  · simp
  · rw [if_neg (Nat.lt_asymm hm), if_neg (Nat.ne_of_gt hm), List.getElem?_eq_none (Nat.le_of_lt hm),
      List.getElem?_eq_none (by rw [List.length_singleton]; omega)]

/-- Every open session was made. -/
def IsNumbered : Prop := ∀ p ∈ s.ids, p.2 < s.made.length

theorem IsNumbered.lt_of_number? {s : Sessions} (h : s.IsNumbered) {id : String} {n : Nat}
    (hn : s.number? id = some n) : n < s.made.length := by
  obtain ⟨l, l', hids, -⟩ := List.lookup_eq_some_iff.1 hn
  refine h (id, n) ?_
  rw [hids]
  exact List.mem_append_right l List.mem_cons_self

theorem IsNumbered.add {s : Sessions} (h : s.IsNumbered) (x : Session) : (s.add x).1.IsNumbered := by
  intro p hp
  rw [length_made_add]
  rcases List.mem_append.1 hp with hp | hp
  · exact Nat.lt_succ_of_lt (h p hp)
  · rw [List.mem_singleton.1 hp]
    exact Nat.lt_succ_self _

/-- Nobody has a session that was not made. -/
theorem get_of_length_le {n : Nat} (hn : s.made.length ≤ n) : s.get n = .blank := by
  rw [get, List.getD_eq_getElem?_getD, List.getElem?_eq_none hn]
  rfl

end Sessions

/-! ### Stacks -/

namespace Workbench

/-- The runs in progress of each task. -/
def allStacks (w : Workbench) : List (List Frame) := w.tasks.map TaskState.frames

def stack (w : Workbench) (t : Nat) : List Frame := (w.task t).frames

/-- How many runs of a session are in progress. -/
def loops (allStacks : List (List Frame)) (n : Nat) : Nat := allStacks.flatten.countP (·.run.session == n)

theorem stack_eq (w : Workbench) (t : Nat) : w.stack t = w.allStacks.getD t [] := by
  simp only [stack, allStacks, task, List.getD_eq_getElem?_getD, List.getElem?_map]
  cases w.tasks[t]? <;> rfl

theorem length_stacks (w : Workbench) : w.allStacks.length = w.tasks.length := List.length_map _

/-- The runs of a task put back in their place change nothing. -/
theorem set_stack (w : Workbench) (t : Nat) : w.allStacks.set t (w.stack t) = w.allStacks := by
  rw [stack_eq]
  rcases Nat.lt_or_ge t w.allStacks.length with ht | ht
  · rw [List.getD_eq_getElem?_getD, List.getElem?_eq_getElem ht, Option.getD_some, List.set_getElem_self]
  · rw [List.set_eq_of_length_le ht]

theorem stack_of_ready {w : Workbench} {t : Nat} {frames : List Frame} (h : w.task t = .ready frames) :
    w.stack t = frames := by
  rw [stack, h]
  rfl

variable (w : Workbench) (n t : Nat)

@[simp] theorem session_eq : w.session n = w.sessions.get n := rfl

/-! ### Small operations -/

section SetTask
variable (s : TaskState)
@[simp] theorem sessions_setTask : (w.setTask t s).sessions = w.sessions := rfl
@[simp] theorem stacks_setTask : (w.setTask t s).allStacks = w.allStacks.set t s.frames := List.map_set
end SetTask

section Wake
variable (isMet : TaskState → Bool)
/-- Whoever is woken keeps its runs. -/
@[simp] theorem stacks_wake : (w.wake isMet).allStacks = w.allStacks := by
  simp only [allStacks, wake, List.map_map]
  refine List.map_congr_left fun s _ => ?_
  simp only [Function.comp_apply]
  split
  · rfl
  · rfl

theorem task_wake (h : isMet (.ended .cancelled) = false) :
    (w.wake isMet).task t = if isMet (w.task t) then .ready (w.task t).frames else w.task t := by
  simp only [task, wake, List.getD_eq_getElem?_getD, List.getElem?_map]
  cases w.tasks[t]? with
  | some s => rfl
  | none => simp [h]

end Wake

theorem task_setTask_same {t : Nat} (s : TaskState) (ht : t < w.tasks.length) : (w.setTask t s).task t = s := by
  simp [task, setTask, ht]

/-- A task that has not ended is there. -/
theorem lt_length_of_ready {t : Nat} {frames : List Frame} (h : w.task t = .ready frames) : t < w.tasks.length := by
  by_contra ht
  rw [task, List.getD_eq_getElem?_getD, List.getElem?_eq_none (Nat.le_of_not_lt ht)] at h
  cases h

/-! ### Changes of one session -/

@[simp] theorem stacks_setSession (changed : Session × List Event) :
    (w.setSession n changed).allStacks = w.allStacks := rfl

@[simp] theorem sessions_highlight (e : HighlightEvent) :
    (w.highlight n e).sessions = w.sessions.update n fun s => { s with highlights := Highlights.after e } := rfl

@[simp] theorem stacks_highlight (e : HighlightEvent) : (w.highlight n e).allStacks = w.allStacks := rfl

section Moved
variable (m : Machine)

@[simp] theorem sessions_moved : (w.moved n m).sessions = w.sessions.update n fun s => { s with machine := m } := by
  unfold moved
  split
  · rfl
  · rfl

@[simp] theorem stacks_moved : (w.moved n m).allStacks = w.allStacks := by
  unfold moved
  split
  · rw [stacks_wake, stacks_setSession]
  · rfl

@[simp] theorem registry_moved : (w.moved n m).registry = w.registry := by
  unfold moved
  split
  · rfl
  · rfl

@[simp] theorem host_moved : (w.moved n m).host = w.host := by
  unfold moved
  split
  · rfl
  · rfl

end Moved

theorem act_of_ok {w : Workbench} {n : Nat} {a : Action} {m : Machine} {reply : Option Bool}
    (h : (w.session n).machine.act a = .ok (m, reply)) : w.act n a = .ok (w.moved n m, reply) := by
  unfold act
  simp only [h]

theorem act_of_error {w : Workbench} {n : Nat} {a : Action} {r : Refusal}
    (h : (w.session n).machine.act a = .error r) : w.act n a = .error (.refused r) := by
  unfold act
  simp only [h]

theorem tryAct_of_ok {w : Workbench} {n : Nat} {a : Action} {m : Machine} {reply : Option Bool}
    (h : (w.session n).machine.act a = .ok (m, reply)) : w.tryAct n a = w.moved n m := by
  unfold tryAct
  rw [act_of_ok h]

/-- The machine that a session was moved to. -/
theorem machine_moved {w : Workbench} {n : Nat} (hn : n < w.sessions.made.length) (m : Machine) :
    ((w.moved n m).session n).machine = m := by
  rw [session_eq, sessions_moved, Sessions.get_update_same _ _ hn]

end Workbench

end Playbook
