import Playbook.Text.Blank
import Playbook.Text.Lines
import Mathlib.Data.List.DropRight
import Mathlib.Data.List.TakeWhile
/-!
# Lines and margins

What cutting a text into lines and a line into its margins leaves as it was: lines hold characters of the text only,
a text that ends with a line feed keeps its lines to itself, and a trimmed line stands in the line behind its margin.
-/

namespace Playbook.Text

/-! ### Stretches of a list -/

/-- A stretch that ends within some elements, or where those behind them begin, ends there in any case. -/
theorem takeWhile_append_of_head {α : Type} {p : α → Bool} {ys : List α} (h : ∀ y ∈ ys.head?, p y = false)
    (xs : List α) : (xs ++ ys).takeWhile p = xs.takeWhile p := by
  have hnone : ys.takeWhile p = [] := by
    cases ys with
    | nil => rfl
    | cons y ys => simp [h y rfl]
  rw [List.takeWhile_append, hnone, List.append_nil]
  split
  · rename_i hlength
    exact ((List.takeWhile_sublist p).eq_of_length hlength).symm
  · rfl

section Stretch

variable {α : Type} {p : α → Bool} {xs ys : List α}

/-- The first element behind a stretch is not one of it. -/
theorem not_of_mem_head?_dropWhile {x : α} (h : x ∈ (xs.dropWhile p).head?) : p x = false := by
  have := List.head?_dropWhile_not p xs
  rw [h] at this
  simpa using this

theorem dropWhile_of_head (h : ∀ y ∈ ys.head?, p y = false) : ys.dropWhile p = ys := by
  cases ys with
  | nil => rfl
  | cons y ys => rw [List.dropWhile_cons_of_neg (by simp [h y rfl])]

/-- A list falls apart where a stretch of it ends. -/
theorem stretch_append (hxs : ∀ x ∈ xs, p x = true) (hys : ∀ y ∈ ys.head?, p y = false) :
    (xs ++ ys).takeWhile p = xs ∧ (xs ++ ys).dropWhile p = ys := by
  constructor
  · rw [takeWhile_append_of_head hys, List.takeWhile_eq_self_iff]
    exact hxs
  · rw [List.dropWhile_append_of_pos hxs, dropWhile_of_head hys]

/-- What is cut off at both ends is of the kind. -/
theorem exists_ends (p : α → Bool) (xs : List α) : ∃ left right,
    (∀ x ∈ left, p x = true) ∧ (∀ x ∈ right, p x = true) ∧ xs = left ++ ((xs.dropWhile p).rdropWhile p ++ right) := by
  refine ⟨xs.takeWhile p, (xs.dropWhile p).rtakeWhile p, fun x hx => List.mem_takeWhile_imp hx,
    fun x hx => List.mem_rtakeWhile_imp hx, ?_⟩
  rw [List.rdropWhile_append_rtakeWhile, List.takeWhile_append_dropWhile]

/-- What is left has nothing more to be cut off. -/
theorem dropEnds_dropEnds (p : α → Bool) (xs : List α) :
    (((xs.dropWhile p).rdropWhile p).dropWhile p).rdropWhile p = (xs.dropWhile p).rdropWhile p := by
  have hstart : ((xs.dropWhile p).rdropWhile p).dropWhile p = (xs.dropWhile p).rdropWhile p := by
    obtain ⟨right, hright⟩ := List.rdropWhile_prefix p (xs.dropWhile p)
    refine dropWhile_of_head fun x hx => @not_of_mem_head?_dropWhile α p xs x ?_
    rw [← hright, List.head?_append, hx, Option.some_or]
    rfl
  rw [hstart, List.rdropWhile_idempotent]

end Stretch

/-! ### Lines -/

theorem rawLines_ne_nil (c : Char) (cs : List Char) : rawLines (c :: cs) ≠ [] := by
  rw [rawLines]
  split
  · exact List.cons_ne_nil _ _
  · split
    · exact List.cons_ne_nil _ _
    · exact List.cons_ne_nil _ _

theorem rawLines_append {cs : List Char} (h : cs.getLast? = some '\n') (ds : List Char) :
    rawLines (cs ++ ds) = rawLines cs ++ rawLines ds := by
  induction cs with
  | nil => cases h
  | cons c cs ih =>
      cases cs with
      | nil =>
          obtain rfl : c = '\n' := by simpa using h
          simp [rawLines]
      | cons d cs =>
          rw [List.getLast?_cons_cons] at h
          rw [List.cons_append, rawLines, rawLines, ih h]
          split
          · rfl
          · cases hlines : rawLines (d :: cs) with
            | nil => exact absurd hlines (rawLines_ne_nil d cs)
            | cons line rest => rfl

theorem rawLines_line {line : Line} (h : '\n' ∉ line) (cs : List Char) :
    rawLines (line ++ '\n' :: cs) = line :: rawLines cs := by
  induction line with
  | nil => simp [rawLines]
  | cons c line ih =>
      obtain ⟨hc, hline⟩ := not_or.1 (List.mem_cons.not.1 h)
      rw [List.cons_append, rawLines, if_neg (Ne.symm hc), ih hline]

theorem rawLines_of_inLine {line : Line} (h : '\n' ∉ line) (hne : line ≠ []) : rawLines line = [line] := by
  induction line with
  | nil => exact absurd rfl hne
  | cons c line ih =>
      obtain ⟨hc, hline⟩ := not_or.1 (List.mem_cons.not.1 h)
      rw [rawLines, if_neg (Ne.symm hc)]
      cases line with
      | nil => rfl
      | cons d line => rw [ih hline (List.cons_ne_nil d line)]

/-- A text that ends with a line feed keeps its lines to itself. -/
theorem lines_append {cs : List Char} (h : cs.getLast? = some '\n') (ds : List Char) :
    lines (cs ++ ds) = lines cs ++ lines ds := by
  rw [lines, rawLines_append h, List.map_append, lines, lines]

theorem subset_of_mem_rawLines {cs : List Char} {line : Line} (h : line ∈ rawLines cs) : line ⊆ cs := by
  induction cs generalizing line with
  | nil => cases h
  | cons c cs ih =>
      rw [rawLines] at h
      split at h
      · rcases List.mem_cons.1 h with rfl | h
        · exact List.nil_subset _
        · exact List.subset_cons_of_subset c (ih h)
      · split at h
        · rw [List.mem_singleton.1 h]
          exact List.cons_subset_cons c (List.nil_subset _)
        · rename_i first rest hlines
          rw [hlines] at ih
          rcases List.mem_cons.1 h with rfl | h
          · exact List.cons_subset_cons c (ih List.mem_cons_self)
          · exact List.subset_cons_of_subset c (ih (List.mem_cons_of_mem _ h))

theorem inLine_of_mem_rawLines {cs : List Char} {line : Line} (h : line ∈ rawLines cs) : '\n' ∉ line := by
  induction cs generalizing line with
  | nil => cases h
  | cons c cs ih =>
      rw [rawLines] at h
      split at h
      · rcases List.mem_cons.1 h with rfl | h
        · exact List.not_mem_nil
        · exact ih h
      rename_i hc
      have hstart : ∀ {ds : Line}, '\n' ∉ ds → '\n' ∉ c :: ds := fun hds =>
        List.not_mem_cons_of_ne_of_not_mem (Ne.symm hc) hds
      split at h
      · rw [List.mem_singleton.1 h]
        exact hstart List.not_mem_nil
      · rename_i first rest hlines
        rw [hlines] at ih
        rcases List.mem_cons.1 h with rfl | h
        · exact hstart (ih List.mem_cons_self)
        · exact ih (List.mem_cons_of_mem _ h)

theorem dropReturn_isPrefix (line : Line) : dropReturn line <+: line := by
  unfold dropReturn
  split
  · exact List.dropLast_prefix line
  · exact List.prefix_refl line

theorem subset_of_mem_lines {cs : List Char} {line : Line} (h : line ∈ lines cs) : line ⊆ cs := by
  obtain ⟨raw, hraw, rfl⟩ := List.mem_map.1 h
  exact fun c hc => subset_of_mem_rawLines hraw ((dropReturn_isPrefix raw).subset hc)

theorem inLine_of_mem_lines {cs : List Char} {line : Line} (h : line ∈ lines cs) : '\n' ∉ line := by
  obtain ⟨raw, hraw, rfl⟩ := List.mem_map.1 h
  exact fun hmem => inLine_of_mem_rawLines hraw ((dropReturn_isPrefix raw).subset hmem)

/-! ### Margins -/

theorem trimStart_eq_drop (cs : List Char) : trimStart cs = cs.drop (indent cs) := by
  have hsplit : cs.takeWhile isBlankChar ++ trimStart cs = cs := List.takeWhile_append_dropWhile
  calc trimStart cs = (cs.takeWhile isBlankChar ++ trimStart cs).drop (indent cs) := List.drop_left.symm
    _ = cs.drop (indent cs) := by rw [hsplit]

theorem trimEnd_isPrefix (cs : List Char) : trimEnd cs <+: cs := by
  rw [← List.reverse_suffix, trimEnd, List.reverse_reverse]
  exact List.dropWhile_suffix _

/-- A trimmed line stands in the line behind its margin. -/
theorem trim_isPrefix (cs : List Char) : trim cs <+: cs.drop (indent cs) := by
  rw [← trimStart_eq_drop]
  exact trimEnd_isPrefix _

theorem trim_subset (cs : List Char) : trim cs ⊆ cs :=
  ((trim_isPrefix cs).sublist.trans (List.drop_sublist _ _)).subset

theorem trim_of_isBlank {cs : List Char} (h : isBlank cs = true) : trim cs = [] := by
  have hnil : trimStart cs = [] := by
    rw [trimStart, List.dropWhile_eq_nil_iff]
    exact List.all_eq_true.1 h
  rw [trim, hnil]
  rfl

theorem trim_margin {margin : List Char} (h : ∀ c ∈ margin, isBlankChar c = true) (cs : List Char) :
    trim (margin ++ cs) = trim cs := by
  rw [trim, trimStart, List.dropWhile_append_of_pos h]
  rfl

/-- A trimmed line begins with a visible character, if with any. -/
theorem head_trim (cs : List Char) : ∀ c ∈ (trim cs).head?, isBlankChar c = false := by
  intro c hc
  obtain ⟨margin, hmargin⟩ := trimEnd_isPrefix (trimStart cs)
  have hmem : c ∈ (cs.dropWhile isBlankChar).head? := by
    change c ∈ (trimStart cs).head?
    rw [← hmargin, List.head?_append]
    simp [show (trimEnd (trimStart cs)).head? = some c from hc]
  exact not_of_mem_head?_dropWhile hmem

theorem indent_trim (cs : List Char) : indent (trim cs) = 0 := by
  have hnone : (trim cs).takeWhile isBlankChar = [] := by
    cases htrim : trim cs with
    | nil => rfl
    | cons c ds =>
        have hc : isBlankChar c = false := head_trim cs c (by rw [htrim]; rfl)
        rw [List.takeWhile_cons_of_neg (by simp [hc])]
  rw [indent, hnone, List.length_nil]

theorem isBlank_of_trim {cs : List Char} (h : trim cs = []) : isBlank cs = true := by
  rw [trim, trimEnd, List.reverse_eq_nil_iff, List.dropWhile_eq_nil_iff] at h
  have hnil : trimStart cs = [] := by
    cases hstart : trimStart cs with
    | nil => rfl
    | cons c ds =>
        have hmem : c ∈ (cs.dropWhile isBlankChar).head? := by
          change c ∈ (trimStart cs).head?
          rw [hstart]
          rfl
        have hvisible := not_of_mem_head?_dropWhile hmem
        have hblank := h c (by simp [hstart])
        rw [hvisible] at hblank
        cases hblank
  rw [trimStart, List.dropWhile_eq_nil_iff] at hnil
  exact List.all_eq_true.2 hnil

/-- The margin of a line is that of each part in front of it that is not blank. -/
theorem indent_of_isPrefix {cs ds : List Char} (h : ds <+: cs) (hvisible : isBlank ds = false) :
    indent cs = indent ds := by
  obtain ⟨es, rfl⟩ := h
  rw [indent, indent, List.takeWhile_append, if_neg]
  intro hlength
  have hall : ds.takeWhile isBlankChar = ds := (List.takeWhile_prefix _).eq_of_length hlength
  rw [List.takeWhile_eq_self_iff] at hall
  rw [isBlank, List.all_eq_true.2 hall] at hvisible
  cases hvisible

/-! ### Lines without blanks at the ends -/

/-- No blank at either end. -/
structure IsTight (cs : List Char) : Prop where
  head : ∃ c, cs.head? = some c ∧ isBlankChar c = false
  last : ∃ c, cs.getLast? = some c ∧ isBlankChar c = false

section Tight

variable {cs ds ms : List Char}

theorem IsTight.last_append (h : IsTight cs) (ms : List Char) :
    ∃ c, (ms ++ cs).getLast? = some c ∧ isBlankChar c = false := by
  obtain ⟨c, hc, hblank⟩ := h.last
  exact ⟨c, by rw [List.getLast?_append, hc, Option.some_or], hblank⟩

theorem IsTight.append (h : IsTight cs) (h' : IsTight ds) (ms : List Char) : IsTight (cs ++ ms ++ ds) where
  head := by
    obtain ⟨c, hc, hblank⟩ := h.head
    refine ⟨c, ?_, hblank⟩
    rw [List.append_assoc, List.head?_append, hc, Option.some_or]
  last := h'.last_append (cs ++ ms)

theorem trim_of_isTight (hms : isBlank ms = true) (h : IsTight cs) : trim (ms ++ cs) = cs := by
  obtain ⟨c, hc, hfirst⟩ := h.head
  obtain ⟨d, hd, hlast⟩ := h.last
  have hstart : trimStart (ms ++ cs) = cs := by
    refine (stretch_append (List.all_eq_true.1 hms) ?_).2
    rw [hc]
    rintro _ ⟨⟩
    exact hfirst
  rw [trim, hstart, trimEnd, dropWhile_of_head, List.reverse_reverse]
  rw [List.head?_reverse, hd]
  rintro _ ⟨⟩
  exact hlast

theorem last_trim (cs : List Char) : ∀ c ∈ (trim cs).getLast?, isBlankChar c = false := by
  intro c hc
  rw [trim, trimEnd, List.getLast?_reverse] at hc
  exact not_of_mem_head?_dropWhile hc

/-- What is cut off is blank. -/
theorem exists_margins (cs : List Char) : ∃ left right,
    (∀ c ∈ left, isBlankChar c = true) ∧ (∀ c ∈ right, isBlankChar c = true) ∧ cs = left ++ (trim cs ++ right) :=
  exists_ends isBlankChar cs

theorem isTight_trim (h : trim cs ≠ []) : IsTight (trim cs) where
  head := ⟨(trim cs).head h, List.head?_eq_some_head h, head_trim cs _ (List.head?_eq_some_head h)⟩
  last := ⟨(trim cs).getLast h, List.getLast?_eq_some_getLast h, last_trim cs _ (List.getLast?_eq_some_getLast h)⟩

theorem trim_trim (cs : List Char) : trim (trim cs) = trim cs := dropEnds_dropEnds isBlankChar cs

end Tight

theorem dropReturn_of_last {line : Line} (h : ∃ c, line.getLast? = some c ∧ isBlankChar c = false) :
    dropReturn line = line := by
  obtain ⟨c, hc, hblank⟩ := h
  rw [dropReturn, hc, if_neg]
  rintro ⟨⟩
  exact absurd hblank (by decide)

/-- Lines that are joined are found again, if none of them ends in a blank. -/
theorem lines_joinLines {ls : List Line} (hin : ∀ line ∈ ls, '\n' ∉ line)
    (hlast : ∀ line ∈ ls, ∃ c, line.getLast? = some c ∧ isBlankChar c = false) : lines (joinLines ls) = ls := by
  have hraw : rawLines (joinLines ls) = ls := by
    induction ls with
    | nil => rfl
    | cons line rest ih =>
        have hline := hin line List.mem_cons_self
        cases rest with
        | nil =>
            obtain ⟨c, hc, -⟩ := hlast line List.mem_cons_self
            refine rawLines_of_inLine hline ?_
            rintro rfl
            cases hc
        | cons next rest =>
            rw [joinLines, rawLines_line hline, ih (fun l hl => hin l (List.mem_cons_of_mem _ hl))
              fun l hl => hlast l (List.mem_cons_of_mem _ hl)]
            exact nofun
  rw [lines, hraw]
  calc ls.map dropReturn = ls.map id := List.map_congr_left fun line hline => dropReturn_of_last (hlast line hline)
    _ = ls := List.map_id ls

end Playbook.Text
