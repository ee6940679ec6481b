import Playbook.Proofs.Text.Lines
import Playbook.Text.Wide
/-!
# Texts with halves

Half of a pair is not blank, so that the blanks at the ends of a text are cut off as they are cut off a text of
characters. Putting halves together changes a text just if two of them stand together that make a character.
-/

namespace Playbook.WideString

@[simp] theorem length_ofChars (cs : List Char) : (ofChars cs).length = cs.length := List.length_map _

@[simp] theorem char_mem_ofString {c : Char} {s : String} : .char c ∈ ofString s ↔ c ∈ s.toList := by
  simp [ofString, ofChars]

theorem isBlank_append (s t : WideString) : isBlank (s ++ t) = true ↔ isBlank s = true ∧ isBlank t = true := by
  rw [isBlank, isBlank, isBlank, List.all_append, Bool.and_eq_true]

/-- What is cut off is blank. -/
theorem exists_margins (s : WideString) : ∃ left right,
    (∀ p ∈ left, p.is Text.isBlankChar = true) ∧ (∀ p ∈ right, p.is Text.isBlankChar = true) ∧
      s = left ++ (s.strip ++ right) :=
  Text.exists_ends (·.is Text.isBlankChar) s

theorem strip_strip (s : WideString) : s.strip.strip = s.strip :=
  Text.dropEnds_dropEnds (fun p : CodePoint => p.is Text.isBlankChar) s

@[simp] theorem isBlank_strip (s : WideString) : s.strip.isBlank = s.isBlank := by
  obtain ⟨left, right, hleft, hright, hs⟩ := exists_margins s
  have hends : isBlank left = true ∧ isBlank right = true := ⟨List.all_eq_true.2 hleft, List.all_eq_true.2 hright⟩
  rw [Bool.eq_iff_iff]
  conv => rhs; rw [hs, isBlank_append, isBlank_append]
  exact ⟨fun h => ⟨hends.1, h, hends.2⟩, fun h => h.2.1⟩

theorem strip_eq_nil_iff {s : WideString} : s.strip = [] ↔ s.isBlank = true := by
  constructor
  · intro h
    rw [← isBlank_strip, h]
    rfl
  · intro h
    have hnil : s.dropWhile (·.is Text.isBlankChar) = [] := List.dropWhile_eq_nil_iff.2 (List.all_eq_true.1 h)
    rw [strip, hnil]
    rfl

/-! ### Putting halves together -/

/-- No two halves that stand together make a character. -/
def IsApart (s : WideString) : Prop := ∀ a b, [CodePoint.half a, .half b] <:+: s → pair? a b = none

theorem isApart_cons_iff {p : CodePoint} {s : WideString} :
    IsApart (p :: s) ↔ (∀ a b, [CodePoint.half a, .half b] <+: p :: s → pair? a b = none) ∧ IsApart s := by
  simp only [IsApart, List.infix_cons_iff, or_imp, forall_and]

theorem joined_eq_self_iff {s : WideString} : s.joined = s ↔ s.IsApart := by
  fun_induction joined s with
  | case1 a b s c hpair ih =>
      refine ⟨nofun, fun h => ?_⟩
      have hnone := h a b ⟨[], s, rfl⟩
      rw [hpair] at hnone
      cases hnone
  | case2 a b s hnone ih =>
      rw [isApart_cons_iff, List.cons_inj_right, ih]
      refine ⟨fun h => ⟨fun a' b' hprefix => ?_, h⟩, fun h => h.2⟩
      obtain ⟨rest, hrest⟩ := hprefix
      cases hrest
      exact hnone
  | case3 p s hlone ih =>
      rw [isApart_cons_iff, List.cons_inj_right, ih]
      refine ⟨fun h => ⟨fun a b hprefix => ?_, h⟩, fun h => h.2⟩
      obtain ⟨rest, hrest⟩ := hprefix
      cases hrest
      exact absurd rfl (hlone a b rest rfl)
  | case4 => exact ⟨fun _ a b h => absurd (List.infix_nil.1 h) (List.cons_ne_nil _ _), fun _ => rfl⟩

/-- A text of characters has no halves. -/
theorem joined_ofString (s : String) : (ofString s).joined = ofString s := by
  refine joined_eq_self_iff.2 fun a b h => ?_
  obtain ⟨c, -, hc⟩ := List.mem_map.1 (h.subset List.mem_cons_self)
  cases hc

end Playbook.WideString
