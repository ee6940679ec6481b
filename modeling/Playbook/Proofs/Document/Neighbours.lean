import Playbook.Proofs.Document.Entries
import Playbook.Session.Run
/-!
# Neighbours in a document

The block before another one is the last one before it that is not blank. So code is the input of a directive just if
the directive comes before it and nothing but blank text stands between the two.
-/

namespace Playbook

variable {blocks : List Block} {i : Nat} {r : Registry}

/-- The search goes backward through the blocks before the index. -/
theorem firstVisible_backward (tries : Nat) (htries : i ≤ tries) (hi : i ≤ blocks.length) :
    firstVisible blocks (-1) tries (i + -1) = (blocks.take i).reverse.find? (!·.isBlank) := by
  induction i generalizing tries with
  | zero =>
      cases tries with
      | zero => rfl
      | succ tries => rfl
  | succ i ih =>
      obtain ⟨tries, rfl⟩ := Nat.exists_eq_add_of_le' (Nat.le_trans (Nat.succ_le_succ (Nat.zero_le i)) htries)
      have hlt : i < blocks.length := hi
      have hindex : ((i + 1 : Nat) : Int) + -1 = i := by omega
      have htake : (blocks.take (i + 1)).reverse = blocks[i] :: (blocks.take i).reverse := by
        rw [List.take_succ_eq_append_getElem hlt, List.reverse_append]
        rfl
      rw [hindex, firstVisible, htake, List.find?_cons, if_neg (by omega), Int.toNat_natCast,
        List.getElem?_eq_getElem hlt]
      cases hblank : blocks[i].isBlank with
      | false => simp [hblank]
      | true =>
          simp only [hblank, if_true, Bool.not_true]
          exact ih tries (by omega) (Nat.le_of_lt hlt)

theorem previousBlock_eq (hi : i ≤ blocks.length) :
    previousBlock blocks i = (blocks.take i).reverse.find? (!·.isBlank) :=
  firstVisible_backward blocks.length hi hi

/-! ### Input of directives -/

/-- The block is a directive whose skill takes the block after it. -/
def Registry.TakesNext (r : Registry) (b : Block) : Prop :=
  b.isDirective = true ∧ ∃ s, r.get? b.name = some s ∧ s.takesNextBlock = true

/-- Only blank text stands between the block at the index and a directive that takes it. -/
def IsInput (r : Registry) (blocks : List Block) (i : Nat) : Prop :=
  ∃ before b blanks, blocks.take i = before ++ b :: blanks ∧ (∀ x ∈ blanks, x.isBlank = true) ∧ r.TakesNext b

theorem Block.not_isBlank_of_isDirective {b : Block} (h : b.isDirective = true) : b.isBlank = false := by
  unfold isBlank
  by_cases hname : b.name = textName
  · rw [isDirective, hname] at h
    cases h
  · rw [beq_false_of_ne hname, Bool.false_and]

theorem takesNext_iff {b : Block} :
    (b.isDirective && ((r.get? b.name).map (·.takesNextBlock)).getD false) = true ↔ r.TakesNext b := by
  unfold Registry.TakesNext
  cases r.get? b.name <;> simp

theorem isPayload_iff (hi : i ≤ blocks.length) : isPayload r blocks i = true ↔ IsInput r blocks i := by
  unfold isPayload
  rw [previousBlock_eq hi]
  constructor
  · intro h
    split at h
    · rename_i b hfind
      obtain ⟨-, before, blanks, hsplit, hblank⟩ := find?_reverse_eq_some_iff.1 hfind
      exact ⟨before, b, blanks, hsplit, fun x hx => by simpa using hblank x hx, takesNext_iff.1 h⟩
    · cases h
  · rintro ⟨before, b, blanks, hsplit, hblank, htakes⟩
    have hvisible : (!b.isBlank) = true := by
      rw [Block.not_isBlank_of_isDirective htakes.1]
      rfl
    have hfind : (blocks.take i).reverse.find? (!·.isBlank) = some b :=
      find?_reverse_eq_some_iff.2 ⟨hvisible, before, blanks, hsplit, fun x hx => by simpa using hblank x hx⟩
    rw [hfind]
    exact takesNext_iff.2 htakes

instance (r : Registry) (blocks : List Block) (i : Nat) : Decidable (IsInput r blocks i) :=
  decidable_of_iff (isPayload r blocks (min i blocks.length) = true) <| by
    rw [isPayload_iff (Nat.min_le_right _ _), IsInput, IsInput, ← List.take_eq_take_min]

/-! ### What blocks add to conversations -/

/-- What a block adds to the conversation when it is no step: text adds itself unless it is blank, and code unless it is
the input of a directive. -/
def contribution (r : Registry) (blocks : List Block) (i : Nat) (b : Block) : List Message :=
  if b.name = Block.textName ∧ Text.blank b.content = false ∨ b.name = Block.codeName ∧ ¬IsInput r blocks i then
    [.agent b.content]
  else []

theorem plainMessages_eq {b : Block} (hb : blocks[i]? = some b) :
    plainMessages r blocks i b = contribution r blocks i b := by
  obtain ⟨hi, -⟩ := List.getElem?_eq_some_iff.1 hb
  have hpayload := isPayload_iff (r := r) (Nat.le_of_lt hi)
  have hother : Block.textName ≠ Block.codeName := by decide
  unfold plainMessages contribution
  by_cases htext : b.name = Block.textName
  · cases hblank : Text.blank b.content <;> simp [htext, hother]
  by_cases hcode : b.name = Block.codeName
  · by_cases hinput : IsInput r blocks i <;> simp [hcode, hother.symm, hpayload, hinput]
  · simp [htext, hcode]

/-- A directive adds nothing before its step. -/
theorem contribution_of_isDirective {b : Block} (h : b.isDirective = true) : contribution r blocks i b = [] := by
  have hname : b.name ∉ Block.plainNames := by simpa [Block.isDirective] using h
  simp only [Block.plainNames, List.mem_cons, List.not_mem_nil, or_false, not_or] at hname
  rw [contribution, if_neg]
  rintro (⟨htext, -⟩ | ⟨hcode, -⟩)
  · exact hname.1 htext
  · exact hname.2.2 hcode

end Playbook
