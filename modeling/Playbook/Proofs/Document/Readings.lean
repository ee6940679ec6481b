import Playbook.Proofs.Document.Cover
import Playbook.Proofs.Text.Lines
/-!
# What the readings are made of

Every reading is what the readers make of one line of the document and the lines behind it. The reader of a
directive gives its block a position, the other readers give theirs a plain name and neither position nor flags, so
the position tells the two kinds of blocks apart. Proofs about all blocks of a document start from here.
-/

namespace Playbook

open Text

/-! ### Lines -/

namespace Document

theorem parse_of_visible {text : String} (h : blank text = false) : parse text = ofLines 1 (lines text.toList) := by
  rw [parse, h, if_neg Bool.false_ne_true]

theorem parse_congr {a b : String} (hblank : blank a = blank b) (hlines : lines a.toList = lines b.toList) :
    parse a = parse b := by
  rw [parse, parse, hblank, hlines]

theorem exists_of_mem_readings {line : Nat} {ls : List Line} {r : Reading} (h : r ∈ readings line ls) :
    ∃ k first rest, ls.drop k = first :: rest ∧ r = readBlock (line + k) first rest := by
  induction hn : ls.length using Nat.strongRecOn generalizing line ls with
  | ind n ih =>
      cases ls with
      | nil =>
          rw [readings] at h
          cases h
      | cons first rest =>
          rw [readings_cons] at h
          rcases List.mem_cons.1 h with rfl | h
          · exact ⟨0, first, rest, rfl, rfl⟩
          · have hpos := (readBlock_claims line first rest).taken_pos
            generalize (readBlock line first rest).taken = taken at h hpos
            obtain ⟨k, first', rest', hdrop, rfl⟩ :=
              ih (rest.drop (taken - 1)).length (by simp at hn ⊢; omega) h rfl
            refine ⟨taken + k, first', rest', ?_, by rw [Nat.add_assoc]⟩
            obtain ⟨taken, rfl⟩ := Nat.exists_eq_add_one_of_ne_zero (Nat.ne_of_gt hpos)
            rw [List.drop_drop] at hdrop
            rw [Nat.add_right_comm, List.drop_succ_cons]
            exact hdrop

/-- A block of a document is what a reader made of some line and those behind it. -/
theorem exists_of_mem_blocks {text : String} {b : Block} (h : b ∈ (parse text).blocks) :
    ∃ k first rest, (lines text.toList).drop k = first :: rest ∧ (readBlock (1 + k) first rest).block = some b := by
  unfold parse at h
  split at h
  · cases h
  · obtain ⟨r, hr, hb⟩ := List.mem_filterMap.1 h
    obtain ⟨k, first, rest, hdrop, rfl⟩ := exists_of_mem_readings hr
    exact ⟨k, first, rest, hdrop, hb⟩

/-- A problem of a document is what a reader found wrong with some line and those behind it. -/
theorem exists_of_mem_problems {text : String} {p : Problem} (h : p ∈ (parse text).problems) :
    ∃ k first rest, (lines text.toList).drop k = first :: rest ∧ (readBlock (1 + k) first rest).problem = some p := by
  unfold parse at h
  split at h
  · cases h
  · obtain ⟨r, hr, hp⟩ := List.mem_filterMap.1 h
    obtain ⟨k, first, rest, hdrop, rfl⟩ := exists_of_mem_readings hr
    exact ⟨k, first, rest, hdrop, hp⟩

/-- A directive that takes all lines is all that is read. -/
theorem readings_of_directive {line : Nat} {first : Line} {rest : List Line} {b : Block}
    (hdirective : Directive.isDirectiveLine first = true)
    (hread : Directive.read line first rest = ⟨some b, none, 1 + rest.length⟩) :
    readings line (first :: rest) = [⟨some b, none, 1 + rest.length⟩] := by
  rw [readings_cons, readBlock, if_pos hdirective, hread]
  dsimp only
  rw [Nat.add_sub_cancel_left, List.drop_length, readings]

end Document

/-! ### The reader of directives -/

namespace Directive

/-- The flag lines that a directive takes. -/
def below (h : Header) (rest : List Line) : List Line := if isBlank h.trailing then rest.takeWhile isFlagLine else []

/-- What a directive is read as from its first line and its flag lines. -/
def block (line : Nat) (first : Line) (h : Header) (more : List Line) : Block where
  name := String.ofList h.name
  flags := if isBlank h.trailing then linesFlags (line + 1) more else trailingFlags line first h
  content := String.ofList (joinLines ((first :: more).map trim))
  line := line
  endLine := line + more.length
  position := some ⟨line, indent first, h.name.length + 1⟩
  language := none

section Read

variable {line : Nat} {first : Line} {rest : List Line} {h : Header}

theorem read_of_header (hheader : header? (trim first) = some h) (rest : List Line) :
    read line first rest = ⟨some (block line first h (below h rest)), none, 1 + (below h rest).length⟩ := by
  rw [read, hheader]
  rfl

theorem exists_header_of_read {b : Block} (hread : (read line first rest).block = some b) :
    ∃ h, header? (trim first) = some h ∧ b = block line first h (below h rest) := by
  cases hheader : header? (trim first) with
  | none =>
      rw [read, hheader] at hread
      cases hread
  | some h =>
      rw [read_of_header hheader] at hread
      exact ⟨h, rfl, (Option.some.inj hread).symm⟩

theorem below_of_blank (hblank : isBlank h.trailing = true) : below h rest = rest.takeWhile isFlagLine := if_pos hblank

theorem below_of_visible (hvisible : ¬isBlank h.trailing = true) : below h rest = [] := if_neg hvisible

theorem below_isPrefix (h : Header) (rest : List Line) : below h rest <+: rest := by
  unfold below
  split
  · exact List.takeWhile_prefix _
  · exact List.nil_prefix

theorem isFlagLine_of_mem_below {l : Line} (hl : l ∈ below h rest) : isFlagLine l = true := by
  unfold below at hl
  split at hl
  · exact List.mem_takeWhile_imp hl
  · cases hl

end Read

end Directive

/-! ### Kinds of blocks -/

/-- The block of a comment. A directive may have the name of one, but has a position. -/
def Block.isComment (b : Block) : Bool := b.name == commentName && b.position.isNone

/-- A block of text, comment or code. -/
structure Block.IsPlain (b : Block) : Prop where
  name : b.name ∈ plainNames
  position : b.position = none
  flags : b.flags = []

section Kinds

variable {line : Nat} {first : Line} {rest : List Line} {b : Block}

theorem Directive.position_of_read (h : (Directive.read line first rest).block = some b) :
    b.position.isSome = true := by
  obtain ⟨header, -, rfl⟩ := Directive.exists_header_of_read h
  rfl

/-- There is always a comment to read. -/
theorem Comment.read_block (line : Nat) (first : Line) (rest : List Line) :
    ∃ text endLine, (read line first rest).block = some (block text line endLine) := by
  unfold read
  split
  · exact ⟨_, _, rfl⟩
  · split
    · exact ⟨_, _, rfl⟩
    · exact ⟨_, _, rfl⟩

theorem Comment.isPlain_of_read (h : (Comment.read line first rest).block = some b) : b.IsPlain := by
  obtain ⟨text, endLine, hread⟩ := read_block line first rest
  cases hread.symm.trans h
  exact ⟨by simp [block, Block.plainNames], rfl, rfl⟩

theorem Fence.isPlain_of_read (h : (Fence.read line first rest).block = some b) : b.IsPlain := by
  simp only [Fence.read] at h
  split at h
  · cases h
    exact ⟨by simp [Block.plainNames], rfl, rfl⟩
  · cases h

theorem Document.isPlain_of_readText (h : (readText line first rest).block = some b) : b.IsPlain := by
  unfold readText at h
  cases h
  exact ⟨by simp [Block.plainNames], rfl, rfl⟩

/-- A block is that of a directive or a plain one. -/
theorem Document.readBlock_kind (h : (readBlock line first rest).block = some b) :
    (Directive.isDirectiveLine first = true ∧ (Directive.read line first rest).block = some b) ∨ b.IsPlain := by
  unfold readBlock at h
  split at h
  · rename_i hdirective
    exact .inl ⟨hdirective, h⟩
  split at h
  · exact .inr (Comment.isPlain_of_read h)
  split at h
  · exact .inr (Fence.isPlain_of_read h)
  · exact .inr (isPlain_of_readText h)

/-! ### Kinds of problems -/

theorem Comment.read_problem (line : Nat) (first : Line) (rest : List Line) :
    (read line first rest).problem = none := by
  unfold read
  split
  · rfl
  · split
    · rfl
    · rfl

/-- A problem is that of a directive or of a fence, and tells the line on which it was found. -/
theorem Document.problem_of_readBlock {p : Problem} (h : (readBlock line first rest).problem = some p) :
    p = .badDirective line (trim first) ∨ p = .openFence line (trim first) := by
  unfold readBlock at h
  split at h
  · unfold Directive.read at h
    split at h
    · exact .inl (Option.some.inj h).symm
    · cases h
  split at h
  · rw [Comment.read_problem] at h
    cases h
  split at h
  · simp only [Fence.read] at h
    split at h
    · cases h
    · exact .inr (Option.some.inj h).symm
  · cases h

end Kinds

end Playbook
