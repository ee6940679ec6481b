import Playbook.Proofs.Document.Neighbours
import Mathlib.Tactic.Ring
/-!
# Where a search for a neighbour ends

The search for the nearest block that is not blank hands back a block. `adjacentIndex?` is the position at which it found
it, which tells two blocks apart that are alike. A search forward and one backward end at each other's start: both say
that nothing but blank text stands between the two.
-/

namespace Playbook

/-! ### Positions of searches -/

/-- Where the search for a visible block ends. -/
def firstVisibleIndex? (blocks : List Block) (step : Int) : (tries : Nat) → (index : Int) → Option Nat
  | 0, _ => none
  | tries + 1, index =>
    if index < 0 then none
    else match blocks[index.toNat]? with
      | none => none
      | some b => if b.isBlank then firstVisibleIndex? blocks step tries (index + step) else some index.toNat

/-- The position of the nearest block in the direction of `step`, blank text skipped. -/
def adjacentIndex? (blocks : List Block) (index : Int) (step : Int) : Option Nat :=
  firstVisibleIndex? blocks step blocks.length (index + step)

variable {blocks : List Block} {step index : Int} {tries i j : Nat}

theorem firstVisible_eq_bind (tries : Nat) (index : Int) :
    firstVisible blocks step tries index = (firstVisibleIndex? blocks step tries index).bind (blocks[·]?) := by
  induction tries generalizing index with
  | zero => rfl
  | succ tries ih =>
      unfold firstVisible firstVisibleIndex?
      by_cases hneg : index < 0
      · simp [hneg]
      · cases hblock : blocks[index.toNat]? with
        | none => simp [hneg]
        | some b =>
            by_cases hblank : b.isBlank = true
            · simp [hneg, hblank, ih]
            · simp [hneg, hblank, hblock]

/-- The neighbour is the block at the position where the search ends. -/
theorem adjacentBlock_eq_bind (blocks : List Block) (index step : Int) :
    adjacentBlock blocks index step = (adjacentIndex? blocks index step).bind (blocks[·]?) :=
  firstVisible_eq_bind blocks.length (index + step)

/-! ### What stands between -/

def blankAt (blocks : List Block) (i : Nat) : Bool := blocks[i]?.any (·.isBlank)

def visibleAt (blocks : List Block) (i : Nat) : Bool := blocks[i]?.any (!·.isBlank)

theorem lt_length_of_visibleAt (h : visibleAt blocks i = true) : i < blocks.length := by
  obtain ⟨b, hb, -⟩ := (Option.any_eq_true _ _).1 h
  exact (List.getElem?_eq_some_iff.1 hb).1

theorem not_blankAt_of_visibleAt (h : visibleAt blocks i = true) : blankAt blocks i = false := by
  obtain ⟨b, hb, hvisible⟩ := (Option.any_eq_true _ _).1 h
  rw [blankAt, hb]
  simpa using hvisible

/-- After `n` blank blocks the search comes to a visible one. -/
structure EndsAt (blocks : List Block) (step index : Int) (n i : Nat) : Prop where
  position : (i : Int) = index + (n : Int) * step
  visible : visibleAt blocks i = true
  blank : ∀ m < n, ∃ k : Nat, (k : Int) = index + (m : Int) * step ∧ blankAt blocks k = true

/-- A search ends at once or has passed a blank block. -/
theorem EndsAt.first {n : Nat} (h : EndsAt blocks step index n i) :
    n = 0 ∧ (i : Int) = index ∨ ∃ k : Nat, (k : Int) = index ∧ blankAt blocks k = true := by
  rcases Nat.eq_zero_or_pos n with rfl | hn
  · exact .inl ⟨rfl, by simpa using h.position⟩
  · exact .inr (by simpa using h.blank 0 hn)

theorem endsAt_succ {p n : Nat} (hp : blankAt blocks p = true) :
    EndsAt blocks step p (n + 1) i ↔ EndsAt blocks step (p + step) n i := by
  have hshift : ∀ k : Nat, (p : Int) + (k + 1 : Nat) * step = p + step + k * step := by
    intro k
    push_cast
    ring
  constructor
  · intro h
    refine ⟨by rw [h.position, hshift], h.visible, fun m hm => ?_⟩
    rw [← hshift]
    exact h.blank (m + 1) (Nat.succ_lt_succ hm)
  · intro h
    refine ⟨by rw [h.position, hshift], h.visible, fun m hm => ?_⟩
    cases m with
    | zero => exact ⟨p, by simp, hp⟩
    | succ m =>
        rw [hshift]
        exact h.blank m (Nat.lt_of_succ_lt_succ hm)

/-- The search passes blank blocks and ends at the first visible one, if it does not run out of tries. -/
theorem firstVisibleIndex?_eq_some :
    firstVisibleIndex? blocks step tries index = some i ↔ ∃ n < tries, EndsAt blocks step index n i := by
  induction tries generalizing index with
  | zero => simp [firstVisibleIndex?]
  | succ tries ih =>
      unfold firstVisibleIndex?
      by_cases hneg : index < 0
      · simp only [hneg, if_true]
        refine ⟨nofun, ?_⟩
        rintro ⟨n, -, hends⟩
        rcases hends.first with ⟨-, hi⟩ | ⟨k, hk, -⟩
        · omega
        · omega
      obtain ⟨p, rfl⟩ := Int.eq_ofNat_of_zero_le (Int.not_lt.1 hneg)
      simp only [hneg, if_false, Int.toNat_natCast]
      -- The first block decides: it is not there, the search goes on from it, or it ends there.
      cases hblock : blocks[p]? with
      | none =>
          refine ⟨nofun, ?_⟩
          rintro ⟨n, -, hends⟩
          rcases hends.first with ⟨-, hi⟩ | ⟨k, hk, hblank⟩
          · have hvisible := hends.visible
            rw [Int.natCast_inj.1 hi, visibleAt, hblock] at hvisible
            cases hvisible
          · rw [Int.natCast_inj.1 hk, blankAt, hblock] at hblank
            cases hblank
      | some b =>
          cases hblank : b.isBlank with
          | true =>
              have hp : blankAt blocks p = true := by simp [blankAt, hblock, hblank]
              simp only [hblank, if_true]
              rw [ih]
              constructor
              · rintro ⟨n, hn, hends⟩
                exact ⟨n + 1, Nat.succ_lt_succ hn, (endsAt_succ hp).2 hends⟩
              · rintro ⟨n, hn, hends⟩
                cases n with
                | zero =>
                    have hi : i = p := by simpa using hends.position
                    have hnot := not_blankAt_of_visibleAt hends.visible
                    rw [hi, hp] at hnot
                    cases hnot
                | succ n => exact ⟨n, Nat.lt_of_succ_lt_succ hn, (endsAt_succ hp).1 hends⟩
          | false =>
              have hp : visibleAt blocks p = true := by simp [visibleAt, hblock, hblank]
              simp only [hblank, Bool.false_eq_true, if_false, Option.some.injEq]
              constructor
              · rintro rfl
                exact ⟨0, Nat.succ_pos _, by simp, hp, nofun⟩
              · rintro ⟨n, -, hends⟩
                rcases hends.first with ⟨-, hi⟩ | ⟨k, hk, hk'⟩
                · exact (Int.natCast_inj.1 hi).symm
                · rw [Int.natCast_inj.1 hk, not_blankAt_of_visibleAt hp] at hk'
                  cases hk'

/-! ### Searches in both directions -/

/-- Only blank text stands between the two positions. -/
structure Adjoins (blocks : List Block) (j i : Nat) : Prop where
  lt : j < i
  blank : ∀ k, j < k → k < i → blankAt blocks k = true

/-- The search forward from `j` ends at `i`. -/
theorem adjacentIndex?_forward :
    adjacentIndex? blocks j 1 = some i ↔ Adjoins blocks j i ∧ visibleAt blocks i = true := by
  rw [adjacentIndex?, firstVisibleIndex?_eq_some]
  constructor
  · rintro ⟨n, -, hends⟩
    have hposition := hends.position
    refine ⟨⟨by omega, fun k hk hki => ?_⟩, hends.visible⟩
    obtain ⟨l, hl, hblank⟩ := hends.blank (k - (j + 1)) (by omega)
    obtain rfl : l = k := by omega
    exact hblank
  · rintro ⟨hadjoins, hvisible⟩
    have hlt := hadjoins.lt
    have hlength := lt_length_of_visibleAt hvisible
    refine ⟨i - (j + 1), by omega, by omega, hvisible, fun m hm => ?_⟩
    exact ⟨j + 1 + m, by push_cast; ring, hadjoins.blank _ (by omega) (by omega)⟩

/-- The search backward from `i` ends at `j`. -/
theorem adjacentIndex?_backward :
    adjacentIndex? blocks i (-1) = some j ↔ Adjoins blocks j i ∧ visibleAt blocks j = true := by
  rw [adjacentIndex?, firstVisibleIndex?_eq_some]
  constructor
  · rintro ⟨n, -, hends⟩
    have hposition := hends.position
    refine ⟨⟨by omega, fun k hk hki => ?_⟩, hends.visible⟩
    obtain ⟨l, hl, hblank⟩ := hends.blank (i - 1 - k) (by omega)
    obtain rfl : l = k := by omega
    exact hblank
  · rintro ⟨hadjoins, hvisible⟩
    have hlt := hadjoins.lt
    -- The blocks that the search looks at are all there, so it does not run out of tries.
    have hlength : i - 1 < blocks.length := by
      by_cases hnear : j = i - 1
      · rw [← hnear]
        exact lt_length_of_visibleAt hvisible
      · obtain ⟨b, hb, -⟩ := (Option.any_eq_true _ _).1 (hadjoins.blank (i - 1) (by omega) (by omega))
        exact (List.getElem?_eq_some_iff.1 hb).1
    refine ⟨i - 1 - j, by omega, by omega, hvisible, fun m hm => ?_⟩
    exact ⟨i - 1 - m, by omega, hadjoins.blank _ (by omega) (by omega)⟩

/-- Between visible blocks the two searches agree. -/
theorem adjacentIndex?_comm (hi : visibleAt blocks i = true) (hj : visibleAt blocks j = true) :
    adjacentIndex? blocks i (-1) = some j ↔ adjacentIndex? blocks j 1 = some i := by
  rw [adjacentIndex?_backward, adjacentIndex?_forward]
  exact and_congr_right fun _ => ⟨fun _ => hi, fun _ => hj⟩

end Playbook
