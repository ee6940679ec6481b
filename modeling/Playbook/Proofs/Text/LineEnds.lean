import Playbook.Proofs.Text.Lines
/-!
# Line ends of stored texts

A line of a text ends with a line feed, and one carriage return in front of that belongs to the end. A stored text is
read with every carriage return taken for a line feed, or for a part of the one behind it. So its lines are those of the
text, each cut once more at the carriage returns that are left in it, and they are the same lines just if none are left.
-/

namespace Playbook.Text

/-! ### One more character in front -/

/-- The character becomes the first of the first line. -/
def startLine (c : Char) : List Line → List Line
  | [] => [[c]]
  | line :: rest => (c :: line) :: rest

theorem rawLines_cons {c : Char} (hc : c ≠ '\n') (cs : List Char) : rawLines (c :: cs) = startLine c (rawLines cs) := by
  rw [rawLines, if_neg hc]
  cases rawLines cs with
  | nil => rfl
  | cons line rest => rfl

/-- A return that was the end of the line is so with another character in front. -/
theorem dropReturn_cons {c : Char} {line : Line} (h : c = '\r' → line ≠ []) :
    dropReturn (c :: line) = c :: dropReturn line := by
  cases line with
  | nil =>
      have hc : c ≠ '\r' := fun hc => h hc rfl
      simp [dropReturn, hc]
  | cons d line =>
      unfold dropReturn
      rw [List.getLast?_cons_cons]
      split
      · rfl
      · rfl

theorem lines_feed (cs : List Char) : lines ('\n' :: cs) = [] :: lines cs := by
  have hnil : dropReturn [] = [] := rfl
  rw [lines, rawLines, if_pos rfl, List.map_cons, hnil, lines]

theorem lines_return_feed (cs : List Char) : lines ('\r' :: '\n' :: cs) = [] :: lines cs := by
  have hreturn : dropReturn ['\r'] = [] := by decide
  rw [lines, rawLines_cons (by decide), rawLines, if_pos rfl, startLine, List.map_cons, hreturn, lines]

theorem map_startLine {c : Char} (hc : c ≠ '\r') (ls : List Line) :
    (startLine c ls).map dropReturn = startLine c (ls.map dropReturn) := by
  cases ls with
  | nil => simp [startLine, dropReturn, hc]
  | cons line rest =>
      have hline : c = '\r' → line ≠ [] := fun h => absurd h hc
      rw [startLine, List.map_cons, dropReturn_cons hline]
      rfl

theorem lines_cons {c : Char} (hfeed : c ≠ '\n') (hreturn : c ≠ '\r') (cs : List Char) :
    lines (c :: cs) = startLine c (lines cs) := by
  rw [lines, rawLines_cons hfeed, map_startLine hreturn, lines]

/-- A return that no line feed follows stays in its line. -/
theorem lines_return_cons {d : Char} (hd : d ≠ '\n') (cs : List Char) :
    ∃ line rest, lines (d :: cs) = line :: rest ∧ lines ('\r' :: d :: cs) = ('\r' :: line) :: rest := by
  have hraw : ∃ line rest, rawLines (d :: cs) = (d :: line) :: rest := by
    rw [rawLines_cons hd]
    cases rawLines cs with
    | nil => exact ⟨[], [], rfl⟩
    | cons line rest => exact ⟨line, rest, rfl⟩
  obtain ⟨line, rest, hline⟩ := hraw
  have hstart : dropReturn ('\r' :: d :: line) = '\r' :: dropReturn (d :: line) :=
    dropReturn_cons fun _ => List.cons_ne_nil d line
  refine ⟨dropReturn (d :: line), rest.map dropReturn, ?_, ?_⟩
  · rw [lines, hline, List.map_cons]
  · rw [lines, rawLines_cons (by decide), hline, startLine, List.map_cons, hstart]

/-! ### Cutting at carriage returns -/

theorem splitOn_self (cs : List Char) : ('\r' :: cs).splitOn '\r' = [] :: cs.splitOn '\r' := by
  simp [List.splitOn, List.splitOnP_cons_eq_if_modifyHead]

theorem splitOn_cons {c : Char} (hc : c ≠ '\r') (cs : List Char) :
    (c :: cs).splitOn '\r' = startLine c (cs.splitOn '\r') := by
  have hne : (c == '\r') = false := beq_eq_false_iff_ne.2 hc
  rw [List.splitOn, List.splitOnP_cons_eq_if_modifyHead, hne, if_neg Bool.false_ne_true, ← List.splitOn]
  cases hsplit : cs.splitOn '\r' with
  | nil => exact absurd hsplit (List.splitOn_ne_nil _ _)
  | cons line rest => rfl

theorem flatMap_splitOn_startLine {c : Char} (hc : c ≠ '\r') (ls : List Line) :
    (startLine c ls).flatMap (List.splitOn '\r') = startLine c (ls.flatMap (List.splitOn '\r')) := by
  cases ls with
  | nil => simp [startLine, splitOn_cons hc, List.splitOn_nil]
  | cons line rest =>
      rw [startLine, List.flatMap_cons, List.flatMap_cons, splitOn_cons hc]
      cases hsplit : line.splitOn '\r' with
      | nil => exact absurd hsplit (List.splitOn_ne_nil _ _)
      | cons piece pieces => rfl

/-- The lines of a stored text are those of the text, cut at the carriage returns that are left in them. -/
theorem lines_unifyLineEnds (cs : List Char) :
    lines (unifyLineEnds cs) = (lines cs).flatMap (List.splitOn '\r') := by
  fun_induction unifyLineEnds cs with
  | case1 => rfl
  | case2 cs ih =>
      rw [lines_feed, lines_return_feed, List.flatMap_cons, List.splitOn_nil, ih]
      rfl
  | case3 cs hnext ih =>
      rw [lines_feed, ih]
      cases cs with
      | nil => rfl
      | cons d cs =>
          have hd : d ≠ '\n' := by
            rintro rfl
            exact hnext cs rfl
          obtain ⟨line, rest, hlines, hreturn⟩ := lines_return_cons hd cs
          rw [hlines, hreturn, List.flatMap_cons, List.flatMap_cons, splitOn_self]
          rfl
  | case4 c cs hpair hreturn ih =>
      have hc : c ≠ '\r' := hreturn
      by_cases hfeed : c = '\n'
      · subst hfeed
        rw [lines_feed, lines_feed, List.flatMap_cons, List.splitOn_nil, ih]
        rfl
      · rw [lines_cons hfeed hc, lines_cons hfeed hc, flatMap_splitOn_startLine hc, ih]

/-! ### Texts that keep their lines -/

/-- No carriage return is left in a line. -/
def KeepsLines (cs : List Char) : Prop := ∀ line ∈ lines cs, '\r' ∉ line

instance (cs : List Char) : Decidable (KeepsLines cs) := inferInstanceAs (Decidable (∀ line ∈ lines cs, '\r' ∉ line))

theorem flatMap_splitOn_eq {ls : List Line} (h : ∀ line ∈ ls, '\r' ∉ line) : ls.flatMap (List.splitOn '\r') = ls := by
  induction ls with
  | nil => rfl
  | cons line rest ih =>
      obtain ⟨hline, hrest⟩ := List.forall_mem_cons.1 h
      rw [List.flatMap_cons, List.splitOn_eq_singleton hline, ih hrest]
      rfl

theorem length_splitOn (cs : List Char) : (cs.splitOn '\r').length = cs.count '\r' + 1 := by
  induction cs with
  | nil => rfl
  | cons c cs ih =>
      by_cases hc : c = '\r'
      · subst hc
        rw [splitOn_self, List.length_cons, ih, List.count_cons_self]
      · rw [splitOn_cons hc, List.count_cons_of_ne hc, ← ih]
        cases hsplit : cs.splitOn '\r' with
        | nil => exact absurd hsplit (List.splitOn_ne_nil _ _)
        | cons line rest => rfl

/-- Each return that is left in a line makes one more line. -/
theorem length_flatMap_splitOn (ls : List Line) :
    (ls.flatMap (List.splitOn '\r')).length = ls.length + ls.flatten.count '\r' := by
  induction ls with
  | nil => rfl
  | cons line rest ih =>
      rw [List.flatMap_cons, List.length_append, length_splitOn, ih, List.flatten_cons, List.count_append,
        List.length_cons]
      omega

theorem lines_unifyLineEnds_of_keepsLines {cs : List Char} (h : KeepsLines cs) :
    lines (unifyLineEnds cs) = lines cs := by
  rw [lines_unifyLineEnds, flatMap_splitOn_eq h]

theorem keepsLines_of_length_eq {cs : List Char} (h : (lines (unifyLineEnds cs)).length = (lines cs).length) :
    KeepsLines cs := by
  rw [lines_unifyLineEnds, length_flatMap_splitOn] at h
  have hcount : (lines cs).flatten.count '\r' = 0 := by omega
  intro line hline hreturn
  exact List.count_eq_zero.1 hcount (List.mem_flatten.2 ⟨line, hline, hreturn⟩)

/-- Both ends of a line are blank, so that a blank text stays blank. -/
theorem isBlank_unifyLineEnds (cs : List Char) : isBlank (unifyLineEnds cs) = isBlank cs := by
  have hfeed : isBlankChar '\n' = true := by decide
  have hreturn : isBlankChar '\r' = true := by decide
  unfold isBlank
  fun_induction unifyLineEnds cs with
  | case1 => rfl
  | case2 cs ih => simp only [List.all_cons, hfeed, hreturn, ih, Bool.true_and]
  | case3 cs hnext ih => simp only [List.all_cons, hfeed, hreturn, ih, Bool.true_and]
  | case4 c cs hpair hreturn ih => simp only [List.all_cons, ih]

theorem return_not_mem_unifyLineEnds (cs : List Char) : '\r' ∉ unifyLineEnds cs := by
  fun_induction unifyLineEnds cs with
  | case1 => exact List.not_mem_nil
  | case2 cs ih | case3 cs _ ih => simp [ih]
  | case4 c cs _ hreturn ih => simpa [ih] using Ne.symm hreturn

/-- A text without returns is read as it is stored, and no other one is. -/
theorem unifyLineEnds_eq_self_iff {cs : List Char} : unifyLineEnds cs = cs ↔ '\r' ∉ cs := by
  constructor
  · intro h
    rw [← h]
    exact return_not_mem_unifyLineEnds cs
  · intro h
    fun_induction unifyLineEnds cs with
    | case1 => rfl
    | case2 cs ih | case3 cs _ ih => exact absurd List.mem_cons_self h
    | case4 c cs _ _ ih => rw [ih fun hmem => h (List.mem_cons_of_mem c hmem)]

end Playbook.Text
