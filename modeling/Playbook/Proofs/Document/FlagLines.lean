import Playbook.Proofs.Document.Readings
import Playbook.Proofs.Document.Flags
/-!
# Lines of flags

Below a directive that has nothing behind its name, every line that begins with two dashes belongs to its block. Such a
line brings a flag for each mark on it, and the flags stand on that line. A line without a mark, such as a rule or a name
with a dash in it, is taken all the same, and none of its words is in the flags of the block.
-/

namespace Playbook

open Text

/-- The flag begins on the line. -/
def Flag.isOn (line : Nat) (f : Flag) : Bool := f.position.any (·.line == line)

/-- There are flags where there are marks. -/
theorem FlagTokens.named_ne_nil_iff (ts : List Token) :
    named ts ≠ [] ↔ ∃ t ∈ ts, ∃ name, t.flagName? = some name := by
  constructor
  · intro h
    obtain ⟨f, hf⟩ := List.exists_mem_of_ne_nil _ h
    obtain ⟨name, ⟨t, hhead, hname⟩, -⟩ := isMarked_of_mem_named hf
    have ht : t ∈ f.tokens := by simp [tokens, hhead]
    exact ⟨t, (named_tokens_sublist ts).subset (List.mem_flatMap.2 ⟨f, hf, ht⟩), name, hname⟩
  · rintro ⟨t, ht, name, hname⟩ hnil
    have hfront := split_tokens ts
    rw [named] at hnil
    rw [hnil, List.flatMap_nil, List.append_nil] at hfront
    have hnone := noMark_front ts t (hfront.symm ▸ ht)
    rw [hname] at hnone
    cases hnone

namespace Directive

theorem isOn_of_mem_lineFlags {line : Nat} {text : Line} {f : Flag} (h : f ∈ lineFlags line text) (other : Nat) :
    f.isOn other = (line == other) := by
  obtain ⟨g, hg, rfl⟩ := List.mem_map.1 h
  obtain ⟨name, ⟨t, hhead, -⟩, -⟩ := FlagTokens.isMarked_of_mem_named hg
  simp only [Flag.isOn, FlagTokens.placed, FlagTokens.flag, hhead, Option.bind_some, Option.any_some]

/-- No flag is on a line above those that it is read from. -/
theorem filter_linesFlags_above {line other : Nat} (h : other < line) (texts : List Line) :
    (linesFlags line texts).filter (·.isOn other) = [] := by
  induction texts generalizing line with
  | nil => rfl
  | cons text texts ih =>
      rw [linesFlags, List.filter_append, ih (Nat.lt_succ_of_lt h), List.append_nil, List.filter_eq_nil_iff]
      intro f hf
      rw [isOn_of_mem_lineFlags hf]
      simpa using Nat.ne_of_gt h

/-- The flags on a line are those that are read from it. -/
theorem filter_linesFlags {texts : List Line} {text : Line} {i : Nat} (h : texts[i]? = some text) (line : Nat) :
    (linesFlags line texts).filter (·.isOn (line + i)) = lineFlags (line + i) text := by
  induction texts generalizing line i with
  | nil => cases h
  | cons head texts ih =>
      rw [linesFlags, List.filter_append]
      cases i with
      | zero =>
          cases h
          rw [Nat.add_zero, filter_linesFlags_above (Nat.lt_succ_self line), List.append_nil, List.filter_eq_self]
          intro f hf
          rw [isOn_of_mem_lineFlags hf]
          exact beq_self_eq_true line
      | succ i =>
          have hnone : (lineFlags line head).filter (·.isOn (line + (i + 1))) = [] := by
            rw [List.filter_eq_nil_iff]
            intro f hf
            rw [isOn_of_mem_lineFlags hf]
            simp
          have hplace : line + (i + 1) = line + 1 + i := by omega
          rw [hnone, List.nil_append, hplace]
          exact ih h (line + 1)

theorem lineFlags_ne_nil_iff (line : Nat) (text : Line) :
    lineFlags line text ≠ [] ↔ ∃ t ∈ Token.scan (trim text), ∃ name, t.flagName? = some name := by
  rw [lineFlags, Ne, List.map_eq_nil_iff]
  exact FlagTokens.named_ne_nil_iff _

section Read

variable {ls : List Line} {k : Nat} {first : Line} {rest : List Line} {b : Block}

/-- Behind its first line a directive has flag lines only, and the flags on each are those that are read from it. -/
theorem flagLine_of_read (hlines : ls.drop k = first :: rest) (hread : (read (1 + k) first rest).block = some b)
    {n : Nat} (hfirst : b.line < n) (hlast : n ≤ b.endLine) :
    ∃ line, ls[n - 1]? = some line ∧ isFlagLine line = true ∧ b.flags.filter (·.isOn n) = lineFlags n line := by
  obtain ⟨h, -, rfl⟩ := exists_header_of_read hread
  obtain ⟨i, rfl⟩ := Nat.exists_eq_add_of_le (Nat.succ_le_of_lt hfirst)
  have hi : i < (below h rest).length := by
    change 1 + k + 1 + i ≤ 1 + k + (below h rest).length at hlast
    omega
  have hline : (below h rest)[i]? = some (below h rest)[i] := List.getElem?_eq_getElem hi
  have hblank : isBlank h.trailing = true := by
    by_contra hvisible
    rw [below_of_visible hvisible] at hi
    cases hi
  refine ⟨(below h rest)[i], ?_, isFlagLine_of_mem_below (List.getElem_mem hi), ?_⟩
  · have hplace : 1 + k + 1 + i - 1 = k + (i + 1) := by omega
    change ls[1 + k + 1 + i - 1]? = _
    rw [hplace, ← List.getElem?_drop, hlines, List.getElem?_cons_succ]
    exact List.prefix_iff_getElem?.1 (below_isPrefix h rest) i hi
  · dsimp only [block]
    rw [if_pos hblank]
    exact filter_linesFlags hline (1 + k + 1)

end Read

end Directive

/-! ### Documents -/

namespace Document

/-- **Lines of flags.** On each further line of a directive stand the flags that account for its words, and there are some
just if there is a mark on the line. -/
theorem parse_flagLine {text : String} {b : Block} (hb : b ∈ (parse text).blocks) (hdirective : b.position.isSome = true)
    {n : Nat} (hfirst : b.line < n) (hlast : n ≤ b.endLine) :
    ∃ line, (lines text.toList)[n - 1]? = some line ∧ Directive.isFlagLine line = true ∧
      Flag.Account (String.ofList (trim line)) (b.flags.filter (·.isOn n)) ∧
      ((∃ f ∈ b.flags, f.isOn n = true) ↔ ∃ t ∈ Token.scan (trim line), ∃ name,
        t.isQuoted = false ∧ t.value = '-' :: '-' :: name ∧ Token.isName name = true) := by
  obtain ⟨k, first, rest, hlines, hread⟩ := exists_of_mem_blocks hb
  rcases readBlock_kind hread with ⟨-, hread⟩ | hplain
  · obtain ⟨line, hline, hflagLine, hflags⟩ := Directive.flagLine_of_read hlines hread hfirst hlast
    refine ⟨line, hline, hflagLine, ?_, ?_⟩
    · have haccount := Flag.account_named (fun t => some ⟨n, indent line + t.start, t.length⟩) (String.ofList (trim line))
      rw [String.toList_ofList] at haccount
      rw [hflags]
      exact haccount
    · have hsome : (∃ f ∈ b.flags, f.isOn n = true) ↔ b.flags.filter (·.isOn n) ≠ [] := by simp
      rw [hsome, hflags, Directive.lineFlags_ne_nil_iff]
      simp only [Token.flagName?_eq_some_iff]
  · rw [hplain.position] at hdirective
    cases hdirective

/-- A line with a hyphenated name in front of its mark, and a rule below it. -/
theorem parse_flagLine_hyphen :
    let text := "@task\n  --my-var x --prompt hi\n---\nnotes\n"
    let prompt : Flag := ⟨"prompt", ["hi"], some ⟨2, 13, 8⟩, [⟨2, 22, 2⟩]⟩
    let task : Block := ⟨"task", [prompt], "@task\n--my-var x --prompt hi\n---", 1, 3, some ⟨1, 0, 5⟩, none⟩
    (task ∈ (parse text).blocks ∧ task.position.isSome = true ∧ task.line < 2 ∧ 2 ≤ task.endLine) ∧
      ∃ line, (lines text.toList)[2 - 1]? = some line ∧ Directive.isFlagLine line = true ∧
        Flag.Account (String.ofList (trim line)) (task.flags.filter (·.isOn 2)) ∧
        ((∃ f ∈ task.flags, f.isOn 2 = true) ↔ ∃ t ∈ Token.scan (trim line), ∃ name,
          t.isQuoted = false ∧ t.value = '-' :: '-' :: name ∧ Token.isName name = true) := by
  intro text prompt task
  have htask : task ∈ (parse text).blocks := by decide +kernel
  have hfirst : task.line < 2 := by decide
  have hlast : 2 ≤ task.endLine := by decide
  exact ⟨⟨htask, rfl, hfirst, hlast⟩, parse_flagLine htask rfl hfirst hlast⟩

/-- A rule below a directive is taken for a line of flags, and brings none. -/
theorem not_isOn_of_rule : ¬ ∀ (text : String) (b : Block), b ∈ (parse text).blocks → b.position.isSome = true →
    ∀ n, b.line < n → n ≤ b.endLine → ∃ f ∈ b.flags, f.isOn n = true := by
  intro hall
  let task : Block := ⟨"task", [], "@task\n---", 1, 2, some ⟨1, 0, 5⟩, none⟩
  have htask : task ∈ (parse "@task\n---\nnotes\n").blocks := by decide +kernel
  obtain ⟨f, hf, -⟩ := hall _ task htask rfl 2 (by decide) (by decide)
  cases hf

end Document

end Playbook
