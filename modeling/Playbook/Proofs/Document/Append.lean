import Playbook.Proofs.Document.Readings
import Playbook.Proofs.Text.Lines
import Mathlib.Tactic.ByContra
/-!
# Documents one after another

Every reader stops at a line that opens a block of its own, and none looks at the number of its line but to write it
down. So the document of a text behind another one is the document of the first, if nothing in it is left open, and
then the document of the second some lines further down.
-/

namespace Playbook

open Text

/-! ### Further down

Blocks and problems with all their places moved down by `k` lines. -/

section Down

variable (k : Nat)

def Position.down (p : Position) : Position := { p with line := p.line + k }

def Flag.down (f : Flag) : Flag :=
  { f with position := f.position.map (·.down k), valuePositions := f.valuePositions.map (·.down k) }

def Block.down (b : Block) : Block :=
  { b with
    flags := b.flags.map (·.down k)
    line := b.line + k
    endLine := b.endLine + k
    position := b.position.map (·.down k) }

def Problem.down (p : Problem) : Problem := { p with line := p.line.map (· + (k : Int)) }

def Reading.down (r : Reading) : Reading :=
  { r with block := r.block.map (·.down k), problem := r.problem.map (·.down k) }

def Document.down (d : Document) : Document where
  blocks := d.blocks.map (·.down k)
  problems := d.problems.map (·.down k)

end Down

/-- Blocks and problems of both. -/
def Document.append (d e : Document) : Document := ⟨d.blocks ++ e.blocks, d.problems ++ e.problems⟩

instance : Append Document := ⟨Document.append⟩

section Readers

variable (k line : Nat) (first : Line) (rest : List Line)

theorem FlagTokens.placed_down (column : Nat) (f : FlagTokens) :
    f.placed (line + k) column = (f.placed line column).down k := by
  cases f with
  | mk head values => cases head <;> simp [placed, flag, Flag.down, Position.down]

theorem Directive.lineFlags_down (text : Line) : lineFlags (line + k) text = (lineFlags line text).map (·.down k) := by
  simp [lineFlags, FlagTokens.placed_down]

theorem Directive.linesFlags_down (texts : List Line) :
    linesFlags (line + k) texts = (linesFlags line texts).map (·.down k) := by
  induction texts generalizing line with
  | nil => rfl
  | cons text texts ih =>
      rw [linesFlags, linesFlags, List.map_append, lineFlags_down, Nat.add_right_comm, ih]

theorem Directive.trailingFlags_down (text : Line) (h : Header) :
    trailingFlags (line + k) text h = (trailingFlags line text h).map (·.down k) := by
  simp [trailingFlags, FlagTokens.placed_down]

theorem Problem.badDirective_down (text : List Char) :
    Problem.badDirective (line + k) text = (Problem.badDirective line text).down k := by
  simp [badDirective, down]

theorem Problem.openFence_down (text : List Char) :
    Problem.openFence (line + k) text = (Problem.openFence line text).down k := by
  simp [openFence, down]

theorem Directive.read_down : read (line + k) first rest = (read line first rest).down k := by
  unfold read
  cases header? (trim first) with
  | none => simp [Reading.down, Problem.badDirective_down]
  | some h =>
      simp only [Reading.down, Block.down, Option.map_some, Option.map_none, Position.down, Nat.add_right_comm line k,
        linesFlags_down, trailingFlags_down, apply_ite (List.map (Flag.down k))]

theorem Comment.read_down : read (line + k) first rest = (read line first rest).down k := by
  have hblock : ∀ text endLine, block text (line + k) (endLine + k) = (block text line endLine).down k := fun _ _ => rfl
  unfold read
  split
  · rw [hblock]
    rfl
  split
  · rw [hblock]
    rfl
  · cases upToClose rest with
    | mk more n =>
        simp only
        rw [Nat.add_right_comm, hblock]
        rfl

theorem Fence.read_down : read (line + k) first rest = (read line first rest).down k := by
  simp only [read]
  split
  · simp only [Reading.down, Block.down, Option.map_some, Option.map_none, List.map_nil, Nat.add_right_comm _ k]
  · rw [Problem.openFence_down]
    rfl

theorem Document.readText_down : readText (line + k) first rest = (readText line first rest).down k := by
  simp only [readText, Reading.down, Block.down, Option.map_some, Option.map_none, List.map_nil, Nat.add_right_comm _ k]

theorem Document.readBlock_down : readBlock (line + k) first rest = (readBlock line first rest).down k := by
  unfold readBlock
  split
  · exact Directive.read_down k line first rest
  split
  · exact Comment.read_down k line first rest
  split
  · exact Fence.read_down k line first rest
  · exact readText_down k line first rest

theorem Document.readings_down (ls : List Line) : readings (line + k) ls = (readings line ls).map (·.down k) := by
  induction hn : ls.length using Nat.strongRecOn generalizing line ls with
  | ind n ih =>
      cases ls with
      | nil => rw [readings, readings, List.map_nil]
      | cons first rest =>
          have hpos := (readBlock_claims line first rest).taken_pos
          rw [readings_cons, readings_cons, List.map_cons, readBlock_down]
          change _ :: readings (line + k + (readBlock line first rest).taken)
            (rest.drop ((readBlock line first rest).taken - 1)) = _
          rw [Nat.add_right_comm, ih _ (by simp at hn ⊢; omega) _ _ rfl]

theorem Document.ofLines_down (ls : List Line) : ofLines (line + k) ls = (ofLines line ls).down k := by
  simp only [ofLines, down, readings_down, List.filterMap_map, List.map_filterMap, Function.comp_def, Reading.down]

end Readers

/-! ### Readers that stop -/

theorem Directive.not_isFlagLine_of_isSpecial {line : Line} (h : Document.isSpecial line = true) :
    isFlagLine line = false := by
  unfold isFlagLine
  by_contra hflag
  rw [Bool.not_eq_false, List.isPrefixOf_iff_prefix] at hflag
  obtain ⟨more, hmore⟩ := hflag
  simp [Document.isSpecial, isDirectiveLine, Comment.isCommentStart, Comment.openMark, Fence.isOpen, Fence.tag?,
    Fence.mark, ← hmore] at h

theorem Document.not_isBlank_of_isSpecial {line : Line} (h : isSpecial line = true) : ¬isBlank line = true := by
  intro hblank
  simp [isSpecial, Directive.isDirectiveLine, Comment.isCommentStart, Comment.openMark, Fence.isOpen, Fence.tag?,
    Fence.mark, trim_of_isBlank hblank] at h

namespace Comment

/-- Whether the comment that the first of the lines opens is closed, on that line or a later one. -/
def isClosed : List Line → Bool
  | [] => false
  | first :: rest => contains closeMark (opening first) || rest.any (contains closeMark)

theorem upToClose_append {ls : List Line} (h : ls.any (contains closeMark) = true) (ms : List Line) :
    upToClose (ls ++ ms) = upToClose ls := by
  induction ls with
  | nil => cases h
  | cons line ls ih =>
      rw [List.cons_append, upToClose, upToClose]
      cases hsplit : splitFirst? closeMark line with
      | some parts => rfl
      | none =>
          rw [List.any_cons, contains, hsplit] at h
          rw [ih h]

theorem read_append (line : Nat) {first : Line} {rest : List Line} (h : isClosed (first :: rest) = true)
    (ms : List Line) : read line first (rest ++ ms) = read line first rest := by
  unfold read
  cases hsplit : splitFirst? closeMark (opening first) with
  | some parts => rfl
  | none =>
      rw [isClosed, contains, hsplit] at h
      rw [upToClose_append h]

end Comment

section Stop

variable {line : Nat} {first : Line} {rest ms : List Line}

theorem Directive.read_append (h : ∀ m ∈ ms.head?, Document.isSpecial m = true) :
    read line first (rest ++ ms) = read line first rest := by
  unfold read
  rw [takeWhile_append_of_head fun m hm => not_isFlagLine_of_isSpecial (h m hm)]

theorem Fence.read_append (h : ∀ p, (read line first rest).problem = some p → p.code ≠ Problem.openFenceCode)
    (ms : List Line) : read line first (rest ++ ms) = read line first rest := by
  have hclosed : (rest.takeWhile (!isClose ·)).length < rest.length := by
    by_contra hopen
    refine h (.openFence line (trim first)) ?_ rfl
    simp only [read, if_neg hopen]
  have hsame : (rest ++ ms).takeWhile (!isClose ·) = rest.takeWhile (!isClose ·) := by
    rw [List.takeWhile_append, if_neg (Nat.ne_of_lt hclosed)]
  simp only [read, hsame, if_pos hclosed]
  rw [if_pos (by rw [List.length_append]; omega)]

theorem Document.readText_append (h : ∀ m ∈ ms.head?, isSpecial m = true) :
    readText line first (rest ++ ms) = readText line first rest := by
  unfold readText
  rw [takeWhile_append_of_head fun m hm => by simp [h m hm]]

/-- A reader that leaves nothing open takes no more lines if there are more. -/
theorem Document.readBlock_append (hspecial : ∀ m ∈ ms.head?, isSpecial m = true)
    (hfence : ∀ p, (readBlock line first rest).problem = some p → p.code ≠ Problem.openFenceCode)
    (hcomment : ∀ b, (readBlock line first rest).block = some b → b.isComment = true →
      Comment.isClosed (first :: rest) = true) :
    readBlock line first (rest ++ ms) = readBlock line first rest := by
  unfold readBlock at *
  split
  · exact Directive.read_append hspecial
  rename_i hdirective
  split
  · rename_i hstart
    rw [if_neg hdirective, if_pos hstart] at hcomment
    obtain ⟨text, endLine, hread⟩ := Comment.read_block line first rest
    exact Comment.read_append line (hcomment _ hread rfl) ms
  rename_i hstart
  split
  · rename_i hopen
    rw [if_neg hdirective, if_neg hstart, if_pos hopen] at hfence
    exact Fence.read_append hfence ms
  · exact readText_append hspecial

end Stop

/-! ### Documents -/

namespace Document

/-- Readings that do not mind more lines are followed by the readings of those. -/
theorem readings_append (line : Nat) (ls ms : List Line)
    (h : ∀ k first rest, ls.drop k = first :: rest → readBlock (line + k) first rest ∈ readings line ls →
      readBlock (line + k) first (rest ++ ms) = readBlock (line + k) first rest) :
    readings line (ls ++ ms) = readings line ls ++ readings (line + ls.length) ms := by
  induction hn : ls.length using Nat.strongRecOn generalizing line ls with
  | ind n ih =>
      cases ls with
      | nil =>
          rw [readings]
          simp [← hn]
      | cons first rest =>
          have hclaims := readBlock_claims line first rest
          have hpos := hclaims.taken_pos
          have hle := hclaims.taken_le
          have hfirst : readBlock line first (rest ++ ms) = readBlock line first rest :=
            h 0 first rest rfl (by rw [readings_cons]; exact List.mem_cons_self)
          obtain ⟨taken, htaken⟩ := Nat.exists_eq_add_one_of_ne_zero (Nat.ne_of_gt hpos)
          rw [readings_cons, htaken, Nat.add_sub_cancel] at h
          rw [htaken] at hle
          have hrest : taken ≤ rest.length := by omega
          rw [List.cons_append, readings_cons, hfirst, readings_cons, htaken, Nat.add_sub_cancel,
            List.drop_append_of_le_length hrest, ih _ (by simp at hn ⊢; omega) _ _ _ rfl, List.cons_append]
          · congr 3
            simp only [List.length_cons, List.length_drop] at hn ⊢
            omega
          · intro k first' rest' hdrop hmem
            rw [List.drop_drop] at hdrop
            rw [Nat.add_assoc] at hmem ⊢
            refine h (taken + 1 + k) first' rest' ?_ (List.mem_cons_of_mem _ hmem)
            rw [Nat.add_right_comm, List.drop_succ_cons]
            exact hdrop

/-- Nothing is left open at the end of a text: its code blocks and its comments are closed. -/
structure Closed (d : Document) (ls : List Line) : Prop where
  fences : ∀ p ∈ d.problems, p.code ≠ Problem.openFenceCode
  comments : ∀ b ∈ d.blocks, b.isComment = true → Comment.isClosed (ls.drop (b.line - 1)) = true

theorem ofLines_append {ls ms : List Line} (hclosed : (ofLines 1 ls).Closed ls)
    (hspecial : ∀ m ∈ ms.head?, isSpecial m = true) :
    ofLines 1 (ls ++ ms) = ofLines 1 ls ++ (ofLines 1 ms).down ls.length := by
  have hreadings : readings 1 (ls ++ ms) = readings 1 ls ++ readings (1 + ls.length) ms := by
    refine readings_append 1 ls ms ?_
    intro k first rest hdrop hmem
    refine readBlock_append hspecial ?_ ?_
    · intro p hp
      exact hclosed.fences p (List.mem_filterMap.2 ⟨_, hmem, hp⟩)
    · intro b hb hcomment
      have hline : b.line = 1 + k := by
        have hinterval := (readBlock_claims (1 + k) first rest).interval_eq
        generalize readBlock (1 + k) first rest = r at hb hinterval
        obtain ⟨block, problem, taken⟩ := r
        subst hb
        exact congrArg Interval.first hinterval
      have hcomment' := hclosed.comments b (List.mem_filterMap.2 ⟨_, hmem, hb⟩) hcomment
      rw [hline, Nat.add_sub_cancel_left, hdrop] at hcomment'
      exact hcomment'
  rw [← ofLines_down, ofLines, hreadings]
  change _ = append _ _
  rw [append, ofLines, ofLines, List.filterMap_append, List.filterMap_append]

/-- What follows a text in which nothing is left open leaves its document as it is. -/
theorem parse_append (a b : String) (hend : a.toList.getLast? = some '\n') (hvisible : blank a = false)
    (hclosed : (parse a).Closed (lines a.toList)) (hspecial : (lines b.toList).head?.any isSpecial = true) :
    parse (a ++ b) = parse a ++ (parse b).down (lines a.toList).length := by
  have hboth : blank (a ++ b) = false := by
    rw [blank, isBlank] at hvisible ⊢
    rw [String.toList_append, List.all_append, hvisible, Bool.false_and]
  have hblank : blank b = false := by
    obtain ⟨first, hfirst, hopens⟩ := (Option.any_eq_true _ _).1 hspecial
    by_contra hblank
    rw [Bool.not_eq_false] at hblank
    refine not_isBlank_of_isSpecial hopens (List.all_eq_true.2 fun c hc => List.all_eq_true.1 hblank c ?_)
    exact subset_of_mem_lines (List.mem_of_mem_head? hfirst) hc
  have hhead : ∀ m ∈ (lines b.toList).head?, isSpecial m = true := fun m hm => by
    rw [hm] at hspecial
    exact hspecial
  rw [parse, hvisible, if_neg Bool.false_ne_true] at hclosed
  rw [parse, parse, parse, hboth, hvisible, hblank, String.toList_append, lines_append hend]
  exact ofLines_append hclosed hhead

/-- A comment, a directive and a code block over several lines, and a directive behind them. -/
theorem parse_append_directive :
    let a := "<!-- note\n-->\n@task\n--prompt x\n```\ncode\n```\n"
    let b := "  @model --id y\ntext"
    a.toList.getLast? = some '\n' ∧ blank a = false ∧ (parse a).Closed (lines a.toList) ∧
      (lines b.toList).head?.any isSpecial = true ∧ parse (a ++ b) = parse a ++ (parse b).down 7 := by
  intro a b
  have hend : a.toList.getLast? = some '\n' := by decide +kernel
  have hvisible : blank a = false := by decide +kernel
  have hclosed : (parse a).Closed (lines a.toList) := ⟨by decide +kernel, by decide +kernel⟩
  have hspecial : (lines b.toList).head?.any isSpecial = true := by decide +kernel
  have hlength : (lines a.toList).length = 7 := by decide +kernel
  have happend := parse_append a b hend hvisible hclosed hspecial
  rw [hlength] at happend
  exact ⟨hend, hvisible, hclosed, hspecial, happend⟩

end Document

end Playbook
