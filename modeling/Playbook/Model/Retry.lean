/-!
# Trying again

A call that fails in passing is made again after a pause. The pauses double from one second up to ten; the
first attempt is always made, and none after the limit.
-/

namespace Playbook.Retry

/-- The pause in seconds after the given number of failed attempts. -/
def pause (failed : Nat) : Nat := min 10 (max 1 (Nat.pow 2 (failed - 1)))

/-- What the attempts came to: the last outcome, how many calls were made, and the pauses between them. -/
structure Course (α : Type) where
  outcome : α
  calls : Nat
  pauses : List Nat
deriving Repr, DecidableEq

/-- What the calls come to, one after another; the last outcome of a script repeats. -/
def outcomeAt {α : Type} (outcome : α) (script : List α) (i : Nat) : α :=
  (outcome :: script)[i]?.getD (script.getLastD outcome)

/-- What a library for attempts is documented to do. An attempt is followed by another one if its outcome passes and the
limit allows it, and the outcome of the last one is what is handed on. -/
structure Follows {α : Type} (isTransient : α → Bool) (limit : Nat) (outcomes : Nat → α) (c : Course α) : Prop where
  first : 0 < c.calls
  last : c.outcome = outcomes (c.calls - 1)
  again : ∀ i, i + 1 < c.calls → isTransient (outcomes i) = true ∧ i + 1 < limit
  stops : isTransient c.outcome = true → limit ≤ c.calls
  pauses : c.pauses = (List.range (c.calls - 1)).map fun i => pause (i + 1)

/-- A library that makes attempts, with the outcomes of a script whose last outcome repeats. -/
structure Loop (α : Type) where
  run : (isTransient : α → Bool) → (limit : Nat) → (outcome : α) → (script : List α) → Course α
  follows : ∀ isTransient limit outcome script,
    Follows isTransient limit (outcomeAt outcome script) (run isTransient limit outcome script)

variable {α : Type}

/-- What does not pass is not tried again. -/
theorem Loop.outcome_of_lasting (loop : Loop α) {isTransient : α → Bool} {outcome : α} (h : isTransient outcome = false)
    (limit : Nat) (script : List α) : (loop.run isTransient limit outcome script).outcome = outcome := by
  have hfollows := loop.follows isTransient limit outcome script
  have hcalls : (loop.run isTransient limit outcome script).calls = 1 := by
    refine Nat.le_antisymm (Nat.le_of_not_lt fun hlt => ?_) hfollows.first
    exact Bool.false_ne_true (h.symm.trans (hfollows.again 0 hlt).1)
  rw [hfollows.last, hcalls]
  rfl

/-! ### One such library -/

theorem outcomeAt_succ (outcome : α) (script : List α) (i : Nat) :
    outcomeAt outcome script (i + 1) = outcomeAt (script.headD outcome) script.tail i := by
  cases script with
  | nil => cases i <;> rfl
  | cons next script => cases script <;> rfl

/-- The attempts behind `made` other ones. -/
def attempts (isTransient : α → Bool) (limit : Nat) (outcome : α) (script : List α) (made : Nat) : Course α :=
  if isTransient outcome ∧ made + 1 < limit then
    let rest := attempts isTransient limit (script.headD outcome) script.tail (made + 1)
    { rest with pauses := pause (made + 1) :: rest.pauses }
  else ⟨outcome, made + 1, []⟩
termination_by limit - made

/-- The number of the last attempt, counted from those that were made before. -/
theorem exists_attempts_eq (isTransient : α → Bool) (limit : Nat) (outcome : α) (script : List α) (made : Nat) :
    ∃ n, attempts isTransient limit outcome script made =
        ⟨outcomeAt outcome script n, made + n + 1, (List.range n).map fun i => pause (made + i + 1)⟩ ∧
      (∀ i < n, isTransient (outcomeAt outcome script i) = true ∧ made + i + 1 < limit) ∧
      (isTransient (outcomeAt outcome script n) = true → limit ≤ made + n + 1) := by
  fun_induction attempts isTransient limit outcome script made with
  | case1 outcome script made hagain rest ih =>
      obtain ⟨n, hrest, hpassed, hstop⟩ := ih
      have hnumber : made + (n + 1) + 1 = made + 1 + n + 1 := by omega
      refine ⟨n + 1, ?_, fun i hi => ?_, ?_⟩
      · have hshift : (fun i => pause (made + (i + 1) + 1)) = fun i => pause (made + 1 + i + 1) := by
          funext i
          rw [Nat.add_right_comm made 1 i, Nat.add_assoc made i 1]
        rw [show rest = _ from hrest, List.range_succ_eq_map, List.map_cons, List.map_map, outcomeAt_succ, hnumber]
        exact congrArg (fun f => Course.mk _ _ (pause (made + 1) :: (List.range n).map f)) hshift.symm
      · cases i with
        | zero => exact hagain
        | succ i =>
            have hnext := hpassed i (Nat.lt_of_succ_lt_succ hi)
            rw [outcomeAt_succ]
            exact ⟨hnext.1, by omega⟩
      · rw [outcomeAt_succ, hnumber]
        exact hstop
  | case2 outcome script made hlast =>
      refine ⟨0, rfl, fun i hi => absurd hi (Nat.not_lt_zero i), fun htransient => ?_⟩
      exact Nat.le_of_not_lt fun hlt => hlast ⟨htransient, hlt⟩

def loop : Loop α where
  run isTransient limit outcome script := attempts isTransient limit outcome script 0
  follows isTransient limit outcome script := by
    obtain ⟨n, hattempts, hpassed, hstop⟩ := exists_attempts_eq isTransient limit outcome script 0
    simp only [Nat.zero_add] at hattempts hpassed hstop
    rw [hattempts]
    exact {
      first := Nat.succ_pos n
      last := rfl
      again := fun i hi => hpassed i (Nat.lt_of_succ_lt_succ hi)
      stops := hstop
      pauses := rfl }

end Playbook.Retry
