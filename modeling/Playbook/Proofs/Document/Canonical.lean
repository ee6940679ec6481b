import Playbook.Proofs.Document.Append
import Playbook.Proofs.Document.Positions
import Playbook.Proofs.Document.Written
/-!
# The content of a directive

The content of a directive is its lines without their margins. As a document of its own it is one block again, with the
same name, flags and content. In the document that it was taken from the block stands some lines further down, and each
of its positions is moved to the right by the margin of the line that it is on; nothing else tells the two apart.
-/

namespace Playbook

open Text

/-! ### Margins

Blocks with the places on each line moved to the right, by a width that depends on the line. -/

section Margin

variable (margin : Nat → Nat)

def Position.indented (p : Position) : Position := { p with start := margin p.line + p.start }

def Flag.indented (f : Flag) : Flag :=
  { f with position := f.position.map (·.indented margin), valuePositions := f.valuePositions.map (·.indented margin) }

def Block.indented (b : Block) : Block :=
  { b with flags := b.flags.map (·.indented margin), position := b.position.map (·.indented margin) }

theorem FlagTokens.placed_indented (line column : Nat) (f : FlagTokens) :
    f.placed line (margin line + column) = (f.placed line column).indented margin := by
  cases f with
  | mk head values => cases head <;> simp [placed, flag, Flag.indented, Position.indented, Nat.add_assoc]

namespace Directive

variable {margin : Nat → Nat} {line : Nat} {text : Line}

theorem lineFlags_trim (h : margin line = indent text) :
    lineFlags line text = (lineFlags line (trim text)).map (·.indented margin) := by
  rw [lineFlags, lineFlags, trim_trim, indent_trim, List.map_map]
  refine List.map_congr_left fun f _ => ?_
  rw [← h]
  exact f.placed_indented margin line 0

theorem linesFlags_trim {texts : List Line} (h : ∀ i text, texts[i]? = some text → margin (line + i) = indent text) :
    linesFlags line texts = (linesFlags line (texts.map trim)).map (·.indented margin) := by
  induction texts generalizing line with
  | nil => rfl
  | cons text texts ih =>
      have hrest : ∀ i text, texts[i]? = some text → margin (line + 1 + i) = indent text := by
        intro i next hnext
        rw [Nat.add_assoc, Nat.add_comm 1]
        exact h (i + 1) next hnext
      have hfirst : margin line = indent text := h 0 text rfl
      rw [linesFlags, List.map_cons, linesFlags, List.map_append, ← lineFlags_trim hfirst, ← ih hrest]

theorem trailingFlags_trim (h : margin line = indent text) (header : Header) :
    trailingFlags line text header = (trailingFlags line (trim text) header).map (·.indented margin) := by
  rw [trailingFlags, trailingFlags, indent_trim, List.map_map]
  refine List.map_congr_left fun f _ => ?_
  have hcolumn : indent text + header.name.length + 1 + indent header.trailing =
      margin line + (0 + header.name.length + 1 + indent header.trailing) := by omega
  rw [hcolumn]
  exact f.placed_indented margin line _

end Directive

end Margin

/-! ### The reader -/

namespace Directive

theorem isDirectiveLine_of_header {first : Line} {h : Header} (hheader : header? (trim first) = some h) :
    isDirectiveLine first = true := by
  rw [isDirectiveLine, eq_of_header? hheader]
  rfl

section Trim

variable (h : Header) (rest : List Line)

/-- The flag lines that were taken are taken again without their margins. -/
theorem below_trim : below h ((below h rest).map trim) = (below h rest).map trim := by
  have htrim : ∀ l, isFlagLine (trim l) = isFlagLine l := fun l => by rw [isFlagLine, isFlagLine, trim_trim]
  by_cases hblank : isBlank h.trailing = true
  · rw [below_of_blank hblank, List.takeWhile_eq_self_iff]
    intro l hl
    obtain ⟨m, hm, rfl⟩ := List.mem_map.1 hl
    rw [htrim, isFlagLine_of_mem_below hm]
  · rw [below_of_visible hblank, below_of_visible hblank]
    rfl

/-- What is read from the lines is what is read from them without their margins, moved to the right by these. -/
theorem block_trim {line : Nat} {first : Line} {more : List Line} {margin : Nat → Nat}
    (hmargin : ∀ i text, (first :: more)[i]? = some text → margin (line + i) = indent text) :
    block line first h more = (block line (trim first) h (more.map trim)).indented margin := by
  have hfirst : margin line = indent first := hmargin 0 first rfl
  have hmore : ∀ i text, more[i]? = some text → margin (line + 1 + i) = indent text := by
    intro i text htext
    rw [Nat.add_assoc, Nat.add_comm 1]
    exact hmargin (i + 1) text htext
  have hflags : (if isBlank h.trailing then linesFlags (line + 1) more else trailingFlags line first h) =
      (if isBlank h.trailing then linesFlags (line + 1) (more.map trim) else trailingFlags line (trim first) h).map
        (·.indented margin) := by
    split
    · exact linesFlags_trim hmore
    · exact trailingFlags_trim hfirst h
  have htwice : (trim first :: more.map trim).map trim = (first :: more).map trim := by simp [trim_trim]
  simp only [block, Block.indented, Position.indented, Option.map_some, hflags, htwice, indent_trim, hfirst,
    List.length_map, Nat.add_zero]

end Trim

end Directive

/-! ### Documents -/

/-- The block as it stands in some lines behind the first `k` of them: further down, and behind the margins there. -/
def Block.placedIn (ls : List Line) (k : Nat) (b : Block) : Block :=
  (b.indented fun n => indent (ls.getD (k + n - 1) [])).down k

namespace Document

theorem trim_ne_nil_of_isPrefixOf {c : Char} {mark : List Char} {l : Line}
    (h : (c :: mark).isPrefixOf (trim l) = true) : trim l ≠ [] := by
  intro hnil
  rw [hnil] at h
  cases h

/-- Visible lines of a text, without their margins, are the lines of a text of their own. -/
theorem parse_joinLines_trim {cs : List Char} {ls : List Line} (hls : ∀ l ∈ ls, l ∈ lines cs)
    (hvisible : ∀ l ∈ ls, trim l ≠ []) (hne : ls ≠ []) :
    parse (String.ofList (joinLines (ls.map trim))) = ofLines 1 (ls.map trim) := by
  have hlines : lines (joinLines (ls.map trim)) = ls.map trim := by
    refine lines_joinLines ?_ ?_
    · rw [List.forall_mem_map]
      exact fun l hl hmem => inLine_of_mem_lines (hls l hl) (trim_subset l hmem)
    · rw [List.forall_mem_map]
      exact fun l hl => (isTight_trim (hvisible l hl)).last
  have hblank : isBlank (joinLines (ls.map trim)) = false := by
    obtain ⟨l, hl⟩ := List.exists_mem_of_ne_nil ls hne
    have hmem : trim l ∈ lines (joinLines (ls.map trim)) := hlines.symm ▸ List.mem_map_of_mem hl
    rw [← Bool.not_eq_true]
    intro hall
    refine hvisible l hl ?_
    rw [← trim_trim]
    exact trim_of_isBlank (List.all_eq_true.2 fun c hc => List.all_eq_true.1 hall c (subset_of_mem_lines hmem hc))
  rw [parse_of_visible (by rw [blank, String.toList_ofList, hblank]), String.toList_ofList, hlines]

/-- A directive without its margins is one block. -/
theorem ofLines_trim {first : Line} {h : Directive.Header} (hheader : Directive.header? (trim first) = some h)
    (rest : List Line) :
    ofLines 1 ((first :: Directive.below h rest).map trim) =
      ⟨[Directive.block 1 (trim first) h ((Directive.below h rest).map trim)], []⟩ := by
  have hagain : Directive.header? (trim (trim first)) = some h := by rw [trim_trim, hheader]
  have hread : Directive.read 1 (trim first) ((Directive.below h rest).map trim) = _ := Directive.read_of_header hagain _
  rw [Directive.below_trim] at hread
  rw [ofLines, List.map_cons, readings_of_directive (Directive.isDirectiveLine_of_header hagain) hread]
  rfl

/-- **Canonical content.** The content of a directive is read as one block without a problem, and this is the block that
it was taken from but for its place. -/
theorem parse_content {text : String} {b : Block} (hb : b ∈ (parse text).blocks)
    (hdirective : b.position.isSome = true) :
    ∃ c k, parse b.content = ⟨[c], []⟩ ∧ c.line = 1 ∧ c.placedIn (lines text.toList) k = b ∧
      c.name = b.name ∧ c.flags.map Flag.content = b.flags.map Flag.content ∧ c.content = b.content := by
  obtain ⟨k, first, rest, hlines, hread⟩ := exists_of_mem_blocks hb
  rcases readBlock_kind hread with ⟨-, hread⟩ | hplain
  · rw [Directive.read_down] at hread
    obtain ⟨d, hd, rfl⟩ := Option.map_eq_some_iff.1 hread
    obtain ⟨h, hheader, rfl⟩ := Directive.exists_header_of_read hd
    have htaken : first :: Directive.below h rest <+: (lines text.toList).drop k := by
      rw [hlines]
      exact List.cons_prefix_cons.2 ⟨rfl, Directive.below_isPrefix h rest⟩
    have hparse : parse (Directive.block 1 first h (Directive.below h rest)).content =
        ⟨[Directive.block 1 (trim first) h ((Directive.below h rest).map trim)], []⟩ := by
      rw [← ofLines_trim hheader]
      refine parse_joinLines_trim (fun l hl => List.mem_of_mem_drop (htaken.subset hl)) ?_ (List.cons_ne_nil _ _)
      refine List.forall_mem_cons.2 ⟨?_, fun l hl => ?_⟩
      · exact trim_ne_nil_of_isPrefixOf (Directive.isDirectiveLine_of_header hheader)
      · exact trim_ne_nil_of_isPrefixOf (Directive.isFlagLine_of_mem_below hl)
    have hplaced :
        (Directive.block 1 (trim first) h ((Directive.below h rest).map trim)).placedIn (lines text.toList) k =
          (Directive.block 1 first h (Directive.below h rest)).down k := by
      rw [Block.placedIn, ← Directive.block_trim]
      intro i l hl
      -- Line `1 + i` of the block is line `k + 1 + i` of the text.
      obtain ⟨hi, rfl⟩ := List.getElem?_eq_some_iff.1 hl
      have hline : (lines text.toList)[k + i]? = some (first :: Directive.below h rest)[i] := by
        rw [← List.getElem?_drop]
        exact List.prefix_iff_getElem?.1 htaken i hi
      have hplace : k + (1 + i) - 1 = k + i := by omega
      rw [hplace, List.getD_eq_getElem?_getD, hline, Option.getD_some]
    refine ⟨_, k, hparse, rfl, hplaced, ?_⟩
    rw [← hplaced]
    refine ⟨rfl, ?_, rfl⟩
    simp [Block.placedIn, Block.indented, Block.down, Flag.content, Flag.indented, Flag.down]
  · rw [hplain.position] at hdirective
    cases hdirective

/-- A directive behind margins and in front of a carriage return, on the third line of its text. -/
theorem parse_content_task :
    let text := "intro\n\n\t@task \n  --prompt \"a b\"\r\n\nx\n"
    let prompt : Flag := ⟨"prompt", ["a b"], some ⟨4, 2, 8⟩, [⟨4, 11, 5⟩]⟩
    let task : Block := ⟨"task", [prompt], "@task\n--prompt \"a b\"", 3, 4, some ⟨3, 1, 5⟩, none⟩
    (task ∈ (parse text).blocks ∧ task.position.isSome = true) ∧
      ∃ c k, parse task.content = ⟨[c], []⟩ ∧ c.line = 1 ∧ c.placedIn (lines text.toList) k = task ∧
        c.name = task.name ∧ c.flags.map Flag.content = task.flags.map Flag.content ∧ c.content = task.content := by
  intro text prompt task
  have htask : task ∈ (parse text).blocks := by decide +kernel
  exact ⟨⟨htask, rfl⟩, parse_content htask rfl⟩

end Document

end Playbook
