import Playbook.Proofs.Document.Readings
import Playbook.Proofs.Document.Written
/-!
# Directives written and read back

A directive that is written in any of the ways is read as one block without a problem, and the block has the name,
the flags and the parameters that were written, wherever the flags stand.
-/

namespace Playbook

open Text

namespace Written

/-! ### Lines of flags -/

theorem FlagLine.isFlagLine (l : FlagLine) : Directive.isFlagLine l.text = true := by
  rw [Directive.isFlagLine, l.trim_text]
  rfl

theorem FlagLine.contents (l : FlagLine) (line : Nat) :
    (Directive.lineFlags line l.text).map Playbook.Flag.content = l.flags.map Flag.content := by
  rw [Directive.lineFlags, FlagTokens.content_placed, l.trim_text]
  exact l.isCutInto.named

theorem contents_linesFlags (ls : List FlagLine) (line : Nat) :
    (Directive.linesFlags line (ls.map FlagLine.text)).map Playbook.Flag.content =
      (ls.flatMap FlagLine.flags).map Flag.content := by
  induction ls generalizing line with
  | nil => rfl
  | cons l ls ih =>
      rw [List.map_cons, Directive.linesFlags, List.map_append, l.contents, ih, List.flatMap_cons, List.map_append]

theorem FlagLine.not_isBlank (l : FlagLine) : isBlank l.text = false := by
  by_contra h
  rw [Bool.not_eq_false] at h
  have hnil := trim_of_isBlank h
  rw [l.trim_text] at hnil
  obtain ⟨c, hc, -⟩ := l.isTight_body.head
  rw [hnil] at hc
  cases hc

end Written

/-! ### The header -/

theorem Directive.header?_eq {name trailing : List Char} (hname : Token.isName name = true)
    (htrailing : ∀ c ∈ trailing.head?, isBlankChar c = true) (hline : '\n' ∉ trailing) :
    header? ('@' :: (name ++ trailing)) = some ⟨name, trailing⟩ := by
  cases name with
  | nil => cases hname
  | cons c cs =>
      obtain ⟨hc, hcs⟩ := (Bool.and_eq_true _ _).mp hname
      have hstop : ∀ d ∈ trailing.head?, Token.isNameChar d = false := by
        intro d hd
        by_contra hchar
        rw [Bool.not_eq_false] at hchar
        exact Bool.false_ne_true ((Token.isBlankChar_of_isNameChar hchar).symm.trans (htrailing d hd))
      obtain ⟨htake, hdrop⟩ := stretch_append (List.all_eq_true.1 hcs) hstop
      have hbroken : (!trailing.contains '\n') = true := by simpa using hline
      rw [List.cons_append, header?, htake, hdrop, hc, hbroken]
      rfl

namespace Written

namespace Layout

variable (l : Layout)

theorem head_trailing : ∀ c ∈ l.trailing.head?, isBlankChar c = true := by
  cases l with
  | inline flags => exact head_spaced flags
  | below lines => exact fun c hc => by cases hc

theorem trailing_inLine : '\n' ∉ l.trailing := by
  cases l with
  | inline flags => exact not_mem_spaced Flag.inLine flags
  | below lines => exact List.not_mem_nil

/-- The flags are below, if there are any, or behind the name, where they stand as they would on a line below. -/
theorem trailing_cases :
    (l.trailing = [] ∧ l.flags = l.more.flatMap FlagLine.flags) ∨
      ∃ line : FlagLine, l.trailing = line.text ∧ l.more = [] ∧ l.flags = line.flags := by
  cases l with
  | below lines => exact .inl ⟨rfl, rfl⟩
  | inline flags =>
      cases flags with
      | nil => exact .inl ⟨rfl, rfl⟩
      | cons f fs =>
          obtain ⟨gap, f⟩ := f
          exact .inr ⟨⟨gap.toMargin, f, fs⟩, spaced_cons gap f fs, rfl, rfl⟩

theorem takeWhile_more : (l.more.map FlagLine.text).takeWhile Directive.isFlagLine = l.more.map FlagLine.text := by
  rw [List.takeWhile_eq_self_iff]
  intro text htext
  obtain ⟨line, -, rfl⟩ := List.mem_map.1 htext
  exact line.isFlagLine

end Layout

namespace Invocation

variable (i : Invocation)

theorem name_noBlank : ∀ c ∈ '@' :: i.name, isBlankChar c = false :=
  List.forall_mem_cons.2 ⟨by decide, Token.noBlank_of_isName i.isName⟩

theorem isTight_head : IsTight i.head := by
  have hname := isTight_of_noBlank (List.cons_ne_nil _ _) i.name_noBlank
  rw [head, ← List.cons_append]
  cases i.layout with
  | inline flags => exact isTight_spaced hname Flag.isTight flags
  | below lines =>
      rw [Layout.trailing, List.append_nil]
      exact hname

theorem head_inLine : '\n' ∉ i.head := by
  rw [head, ← List.cons_append, List.mem_append, not_or]
  exact ⟨not_mem_of_noBlank i.name_noBlank, i.layout.trailing_inLine⟩

theorem trim_first : trim (i.margin.chars ++ i.head) = i.head := trim_of_isTight i.margin.isBlank i.isTight_head

/-! ### The reader -/

/-- The reader of directives takes all lines and finds the flags on them. -/
theorem read_lines :
    ∃ b : Block, Directive.read 1 (i.margin.chars ++ i.head) (i.layout.more.map FlagLine.text) =
        ⟨some b, none, 1 + i.layout.more.length⟩ ∧
      b.name = String.ofList i.name ∧ b.flags.map Playbook.Flag.content = i.contents := by
  have hheader : Directive.header? i.head = some ⟨i.name, i.layout.trailing⟩ :=
    Directive.header?_eq i.isName i.layout.head_trailing i.layout.trailing_inLine
  unfold Directive.read
  rw [i.trim_first, hheader]
  dsimp only
  -- Without anything behind the name the reader takes the lines below; otherwise what is there is one more flag line.
  rcases i.layout.trailing_cases with ⟨htrailing, hflags⟩ | ⟨line, htrailing, hmore, hflags⟩
  · have hblank : isBlank i.layout.trailing = true := by
      rw [htrailing]
      rfl
    simp only [hblank, if_true, i.layout.takeWhile_more, List.length_map]
    refine ⟨_, rfl, rfl, ?_⟩
    rw [contents_linesFlags, contents, hflags]
  · have hblank : isBlank i.layout.trailing = false := by
      rw [htrailing]
      exact line.not_isBlank
    have hnamed : FlagTokens.ofText line.body = FlagTokens.named (Token.scan line.body) := rfl
    simp only [hblank, Bool.false_eq_true, if_false, hmore, List.length_nil]
    refine ⟨_, rfl, rfl, ?_⟩
    rw [Directive.trailingFlags, FlagTokens.content_placed, htrailing, line.trim_text, hnamed, line.isCutInto.named,
      contents, hflags]

theorem lines_text : Text.lines i.text.toList = i.lines := by
  rw [text, String.toList_ofList]
  refine lines_joinLines ?_ ?_
  · refine List.forall_mem_cons.2 ⟨?_, ?_⟩
    · rw [List.mem_append, not_or]
      exact ⟨i.margin.inLine, i.head_inLine⟩
    · intro line hline
      obtain ⟨l, -, rfl⟩ := List.mem_map.1 hline
      exact l.inLine
  -- No line ends in a carriage return, which would be lost.
  · refine List.forall_mem_cons.2 ⟨i.isTight_head.last_append _, ?_⟩
    intro line hline
    obtain ⟨l, -, rfl⟩ := List.mem_map.1 hline
    exact l.isTight_body.last_append _

theorem text_not_blank : blank i.text = false := by
  by_contra h
  rw [Bool.not_eq_false] at h
  have hline : i.margin.chars ++ i.head ∈ Text.lines i.text.toList := by
    rw [i.lines_text]
    exact List.mem_cons_self
  have hat : '@' ∈ i.text.toList := subset_of_mem_lines hline (List.mem_append_right _ List.mem_cons_self)
  exact absurd (List.all_eq_true.1 h _ hat) (by decide)

theorem readings_lines {b : Block}
    (hread : Directive.read 1 (i.margin.chars ++ i.head) (i.layout.more.map FlagLine.text) =
      ⟨some b, none, 1 + i.layout.more.length⟩) :
    Document.readings 1 i.lines = [⟨some b, none, 1 + i.layout.more.length⟩] := by
  have hdirective : Directive.isDirectiveLine (i.margin.chars ++ i.head) = true := by
    rw [Directive.isDirectiveLine, i.trim_first]
    rfl
  have hlength : i.layout.more.length = (i.layout.more.map FlagLine.text).length := (List.length_map _).symm
  rw [hlength] at hread ⊢
  exact Document.readings_of_directive hdirective hread

end Invocation

end Written

/-! ### Documents -/

/-- The parameters that flags with these names and values give. -/
def paramsOf (contents : List (String × List String)) : Params :=
  contents.foldl (fun ps f => insertValue f.1 (" ".intercalate f.2) ps) []

theorem Block.params_eq (b : Block) : b.params = paramsOf (b.flags.map Flag.content) := by
  rw [paramsOf, List.foldl_map]
  rfl

namespace Written

/-- A directive is read as it was written. What comes out does not depend on quotes, gaps, margins and the layout. -/
theorem Invocation.parse_text (i : Invocation) :
    ∃ b : Block, Document.parse i.text = ⟨[b], []⟩ ∧ b.name = String.ofList i.name ∧
      b.flags.map Playbook.Flag.content = i.contents ∧ b.params = paramsOf i.contents := by
  obtain ⟨b, hread, hname, hflags⟩ := i.read_lines
  refine ⟨b, ?_, hname, hflags, by rw [b.params_eq, hflags]⟩
  rw [Document.parse, i.text_not_blank, if_neg Bool.false_ne_true, i.lines_text, Document.ofLines,
    i.readings_lines hread]
  rfl

/-- Two flags behind the name and below it. -/
example :
    let flush : Margin := ⟨[], rfl, List.not_mem_nil⟩
    let gap : Gap := ⟨⟨[' '], rfl, by decide⟩, List.cons_ne_nil _ _⟩
    let prompt : Flag := ⟨['p'], rfl, [(gap, .quoted ['a', ' ', 'b'] (by decide) (by decide))]⟩
    let mark : Flag := ⟨['m'], rfl, [(gap, .bare ['-'] (List.cons_ne_nil _ _) (List.forall_mem_singleton.2 rfl)
      (by decide) nofun)]⟩
    (Invocation.mk flush ['t'] rfl (.inline [(gap, prompt), (gap, mark)])).text = "@t --p \"a b\" --m -" ∧
      (Invocation.mk flush ['t'] rfl (.below [⟨flush, prompt, []⟩, ⟨gap.toMargin, mark, []⟩])).text =
        "@t\n--p \"a b\"\n --m -" := by
  decide

end Written

end Playbook
