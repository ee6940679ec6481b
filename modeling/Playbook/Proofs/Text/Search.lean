import Playbook.Proofs.Text.Lines
import Playbook.Text.Search
import Mathlib.Data.List.Infix
/-!
# Searching a text

A search stops at the first place where the needle stands. Where the needle cannot begin, in a blank margin or across
two lines, the search goes past, so a text may be searched line by line.
-/

namespace Playbook.Text

/-- The needle stands between the two parts of a text, and nowhere before. -/
structure FirstCut (needle cs before after : List Char) : Prop where
  split : cs = before ++ (needle ++ after)
  first : ∀ ds es, cs = ds ++ (needle ++ es) → before.length ≤ ds.length

section Search

variable {needle cs before after : List Char}

/-- A text that holds another one can be cut there. -/
theorem contains_iff (needle cs : List Char) : contains needle cs = true ↔ needle <:+: cs := by
  unfold contains
  induction cs with
  | nil => by_cases hne : needle = [] <;> simp [splitFirst?, hne]
  | cons c cs ih =>
      rw [splitFirst?, List.infix_cons_iff]
      split
      · rename_i hopens
        simp [List.isPrefixOf_iff_prefix.1 hopens]
      · rename_i hopens
        rw [List.isPrefixOf_iff_prefix] at hopens
        rw [Option.isSome_map, ih]
        simp [hopens]

theorem splitFirst?_eq_none_iff : splitFirst? needle cs = none ↔ ¬needle <:+: cs := by
  rw [← contains_iff, contains, Bool.not_eq_true, Option.isSome_eq_false_iff, Option.isNone_iff_eq_none]

theorem splitFirst?_of_isPrefix (h : needle <+: cs) : splitFirst? needle cs = some ([], cs.drop needle.length) := by
  cases cs with
  | nil => rw [splitFirst?, if_pos (List.prefix_nil.1 h), List.drop_nil]
  | cons c cs => rw [splitFirst?, if_pos (List.isPrefixOf_iff_prefix.2 h)]

theorem splitFirst?_cons {c : Char} (h : ¬needle <+: c :: cs) :
    splitFirst? needle (c :: cs) = (splitFirst? needle cs).map fun (before, after) => (c :: before, after) := by
  rw [splitFirst?, if_neg (mt List.isPrefixOf_iff_prefix.1 h)]

theorem firstCut_of_isPrefix (h : needle <+: cs) : FirstCut needle cs [] (cs.drop needle.length) :=
  ⟨(List.prefix_iff_eq_append.1 h).symm, fun _ _ _ => Nat.zero_le _⟩

theorem firstCut_of_splitFirst? (h : splitFirst? needle cs = some (before, after)) :
    FirstCut needle cs before after := by
  induction cs generalizing before with
  | nil =>
      rw [splitFirst?] at h
      split at h
      · rename_i hnil
        cases h
        exact ⟨by rw [hnil]; rfl, fun _ _ _ => Nat.zero_le _⟩
      · cases h
  | cons c cs ih =>
      by_cases hopens : needle <+: c :: cs
      · cases (splitFirst?_of_isPrefix hopens).symm.trans h
        exact firstCut_of_isPrefix hopens
      · rw [splitFirst?_cons hopens, Option.map_eq_some_iff] at h
        obtain ⟨⟨before, after⟩, h, ⟨⟩⟩ := h
        refine ⟨congrArg (c :: ·) (ih h).split, fun ds es hds => ?_⟩
        cases ds with
        | nil => exact absurd ⟨es, hds.symm⟩ hopens
        | cons d ds => exact Nat.succ_le_succ ((ih h).first ds es (List.cons.inj hds).2)

theorem FirstCut.unique {before' after' : List Char} (h : FirstCut needle cs before after)
    (h' : FirstCut needle cs before' after') : before = before' ∧ after = after' := by
  have hlength : before.length = before'.length :=
    Nat.le_antisymm (h.first _ _ h'.split) (h'.first _ _ h.split)
  obtain ⟨hbefore, hrest⟩ := List.append_inj (h.split.symm.trans h'.split) hlength
  exact ⟨hbefore, List.append_cancel_left hrest⟩

/-- Where a text is cut by a search is the first place of all. -/
theorem splitFirst?_eq_some_iff : splitFirst? needle cs = some (before, after) ↔ FirstCut needle cs before after := by
  refine ⟨firstCut_of_splitFirst?, fun hcut => ?_⟩
  cases hsplit : splitFirst? needle cs with
  | none => exact absurd ⟨before, after, by rw [hcut.split, List.append_assoc]⟩ (splitFirst?_eq_none_iff.1 hsplit)
  | some parts =>
      obtain ⟨rfl, rfl⟩ := hcut.unique (firstCut_of_splitFirst? hsplit)
      rfl

theorem FirstCut.not_isInfix (h : FirstCut needle cs before after) (hne : needle ≠ []) : ¬needle <:+: before := by
  rintro ⟨ds, es, rfl⟩
  have hfirst := h.first ds (es ++ (needle ++ after)) (by simp [h.split])
  have hpos : 0 < needle.length := List.length_pos_of_ne_nil hne
  simp only [List.length_append] at hfirst
  omega

/-! ### Past a margin -/

/-- What begins with a visible character does not begin in a blank margin. -/
theorem splitFirst?_margin (hvisible : ∀ c ∈ needle.head?, isBlankChar c = false) (hne : needle ≠ [])
    {margin : List Char} (hmargin : ∀ c ∈ margin, isBlankChar c = true) (cs : List Char) :
    splitFirst? needle (margin ++ cs) =
      (splitFirst? needle cs).map fun (before, after) => (margin ++ before, after) := by
  induction margin with
  | nil => simp
  | cons c margin ih =>
      obtain ⟨hc, hmargin⟩ := List.forall_mem_cons.1 hmargin
      have hopens : ¬needle <+: c :: (margin ++ cs) := by
        intro hprefix
        cases needle with
        | nil => exact hne rfl
        | cons d needle =>
            obtain rfl : d = c := (List.cons_prefix_cons.1 hprefix).1
            exact Bool.noConfusion ((hvisible d rfl).symm.trans hc)
      rw [List.cons_append, splitFirst?_cons hopens, ih hmargin, Option.map_map]
      rfl

theorem isInfix_margin_iff (hvisible : ∀ c ∈ needle.head?, isBlankChar c = false) (hne : needle ≠ [])
    {margin : List Char} (hmargin : ∀ c ∈ margin, isBlankChar c = true) (cs : List Char) :
    needle <:+: margin ++ cs ↔ needle <:+: cs := by
  rw [← contains_iff, contains, splitFirst?_margin hvisible hne hmargin, Option.isSome_map, ← contains, contains_iff]

theorem isInfix_trim_iff (hhead : ∀ c ∈ needle.head?, isBlankChar c = false)
    (hlast : ∀ c ∈ needle.getLast?, isBlankChar c = false) (hne : needle ≠ []) (cs : List Char) :
    needle <:+: trim cs ↔ needle <:+: cs := by
  obtain ⟨left, right, hleft, hright, hcs⟩ := exists_margins cs
  have hlast : ∀ c ∈ needle.reverse.head?, isBlankChar c = false := by rwa [List.head?_reverse]
  have hright : ∀ c ∈ right.reverse, isBlankChar c = true := fun c hc => hright c (List.mem_reverse.1 hc)
  symm
  calc needle <:+: cs ↔ needle <:+: left ++ (trim cs ++ right) := by rw [← hcs]
    _ ↔ needle <:+: trim cs ++ right := isInfix_margin_iff hhead hne hleft _
    _ ↔ needle.reverse <:+: right.reverse ++ (trim cs).reverse := by rw [← List.reverse_append, List.reverse_infix]
    _ ↔ needle.reverse <:+: (trim cs).reverse := isInfix_margin_iff hlast (mt List.reverse_eq_nil_iff.1 hne) hright _
    _ ↔ needle <:+: trim cs := List.reverse_infix

/-! ### Line by line -/

theorem joinLines_cons (line : Line) {rest : List Line} (h : rest ≠ []) :
    joinLines (line :: rest) = line ++ '\n' :: joinLines rest := by
  cases rest with
  | nil => exact absurd rfl h
  | cons next rest => rfl

section Lines

variable (hne : needle ≠ []) (hin : '\n' ∉ needle)

include hin in
/-- What holds no line feed and stands in front of one ends before it. -/
theorem isPrefix_append_newline_iff (xs ys : List Char) : needle <+: xs ++ '\n' :: ys ↔ needle <+: xs := by
  refine ⟨fun h => ?_, fun h => h.trans (List.prefix_append xs _)⟩
  rcases List.prefix_or_prefix_of_prefix h (List.prefix_append xs _) with hprefix | ⟨more, rfl⟩
  · exact hprefix
  cases more with
  | nil => rw [List.append_nil]
  | cons c more =>
      obtain ⟨rfl, -⟩ := List.cons_prefix_cons.1 ((List.prefix_append_right_inj xs).1 h)
      exact absurd (List.mem_append_right xs List.mem_cons_self) hin

include hne hin

theorem splitFirst?_append_newline (xs ys : List Char) :
    splitFirst? needle (xs ++ '\n' :: ys) = match splitFirst? needle xs with
      | some (before, after) => some (before, after ++ '\n' :: ys)
      | none => (splitFirst? needle ys).map fun (before, after) => (xs ++ '\n' :: before, after) := by
  induction xs with
  | nil =>
      have hopens : ¬needle <+: '\n' :: ys := fun h =>
        hne (List.prefix_nil.1 ((isPrefix_append_newline_iff hin [] ys).1 h))
      rw [List.nil_append, splitFirst?_cons hopens, splitFirst?, if_neg hne]
      rfl
  | cons c xs ih =>
      by_cases hopens : needle <+: c :: xs
      · rw [splitFirst?_of_isPrefix ((isPrefix_append_newline_iff hin _ ys).2 hopens), splitFirst?_of_isPrefix hopens,
          List.drop_append_of_le_length hopens.length_le]
      · have hlater : ¬needle <+: c :: (xs ++ '\n' :: ys) := mt (isPrefix_append_newline_iff hin (c :: xs) ys).1 hopens
        rw [List.cons_append, splitFirst?_cons hlater, splitFirst?_cons hopens, ih]
        cases splitFirst? needle xs with
        | none => simp [Option.map_map, Function.comp_def]
        | some parts => rfl

theorem splitFirst?_joinLines (line : Line) (rest : List Line) :
    splitFirst? needle (joinLines (line :: rest)) = match splitFirst? needle line with
      | some (before, after) => some (before, joinLines (after :: rest))
      | none => (splitFirst? needle (joinLines rest)).map fun (before, after) => (line ++ '\n' :: before, after) := by
  cases rest with
  | nil =>
      have hnil : splitFirst? needle (joinLines []) = none := by rw [joinLines, splitFirst?, if_neg hne]
      rw [hnil]
      change splitFirst? needle line = _
      cases splitFirst? needle line <;> rfl
  | cons next rest => exact splitFirst?_append_newline hne hin line _

end Lines

end Search

end Playbook.Text
