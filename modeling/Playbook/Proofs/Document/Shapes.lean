import Playbook.Proofs.Document.Readings
import Playbook.Proofs.Document.Append
import Playbook.Proofs.Document.Comments
/-!
# The shapes of blocks

What the lines of a block look like, and that no block could be longer. Each shape is a statement about the first line
of a block, its other lines and those behind it, and is what one of the readers makes of them. As the blocks and
problems of a document leave no line out, a line that begins with the sign of a directive is never read as text.
-/

namespace Playbook

open Text

/-! ### Shapes -/

/-- A sign, a name that goes on as far as it can, and the rest of the line. -/
structure Directive.Matches (cs name trailing : List Char) : Prop where
  split : cs = '@' :: (name ++ trailing)
  isName : Token.isName name = true
  longest : ∀ c ∈ trailing.head?, Token.isNameChar c = false
  inLine : '\n' ∉ trailing

namespace Block

/-- A run of text: no line opens a block of its own, and the next one does. -/
structure TextShape (content : String) (first : Line) (more after : List Line) : Prop where
  plain : ∀ l ∈ first :: more, Document.isSpecial l = false
  content_eq : content = String.ofList (joinLines (first :: more))
  next : ∀ l ∈ after.head?, Document.isSpecial l = true

/-- A directive: on one line with its flags, or with all the flag lines that follow. -/
structure DirectiveShape (name : String) (first : Line) (more after : List Line) (trailing : List Char) : Prop where
  header : Directive.Matches (trim first) name.toList trailing
  inline : Text.isBlank trailing = false → more = []
  flagLines : ∀ l ∈ more, Directive.isFlagLine l = true
  next : Text.isBlank trailing = true → ∀ l ∈ after.head?, Directive.isFlagLine l = false

/-- Fenced code: from an opening fence to the first closing one. -/
structure CodeShape (content : String) (first : Line) (body : List Line) (last : Line) : Prop where
  opens : Fence.isOpen first = true
  closes : Fence.isClose last = true
  none_between : ∀ l ∈ body, Fence.isClose l = false
  content_eq : content = String.ofList (joinLines body)

/-- A comment: on more than one line it ends with the first that holds a closing marker, or with the last of all. -/
structure CommentShape (first : Line) (more after : List Line) : Prop where
  opens : Comment.openMark <+: trim first
  ends : more = [] ∨ (∃ body last, more = body ++ [last] ∧ Comment.closeMark <:+: last ∧
      ∀ l ∈ body, ¬Comment.closeMark <:+: l) ∨
    (after = [] ∧ ∀ l ∈ more, ¬Comment.closeMark <:+: l)

/-- The lines of the block are its first line and some more, and `shape` is true of these and the lines behind them. -/
def Spans (ls : List Line) (b : Block) (shape : Line → List Line → List Line → Prop) : Prop :=
  ∃ before first more after, ls = before ++ first :: (more ++ after) ∧ b.line = before.length + 1 ∧
    b.endLine = b.line + more.length ∧ shape first more after

/-- What the lines of a block of each kind look like. A directive may have the name of a plain block, but it has a
position. -/
inductive HasShape (ls : List Line) (b : Block) : Prop
  | text (position : b.position = none) (name : b.name = textName) (spans : b.Spans ls (TextShape b.content))
  | directive (position : b.position.isSome = true)
      (spans : b.Spans ls fun first more after => ∃ trailing, DirectiveShape b.name first more after trailing)
  | code (position : b.position = none) (name : b.name = codeName)
      (spans : b.Spans ls fun first more _ => ∃ body last, more = body ++ [last] ∧ CodeShape b.content first body last)
  | comment (position : b.position = none) (name : b.name = commentName) (spans : b.Spans ls CommentShape)

end Block

/-! ### The readers -/

namespace Directive

theorem matches_of_header? {cs : List Char} {h : Header} (hheader : header? cs = some h) :
    Matches cs h.name h.trailing := by
  unfold header? at hheader
  split at hheader
  · rename_i c cs
    split at hheader
    · rename_i hname
      cases hheader
      rw [Bool.and_eq_true] at hname
      refine ⟨?_, ?_, fun d => not_of_mem_head?_dropWhile, by simpa using hname.2⟩
      · rw [List.cons_append, List.takeWhile_append_dropWhile]
      · rw [Token.isName, hname.1, Bool.true_and, List.all_eq_true]
        exact fun d hd => List.mem_takeWhile_imp hd
    · cases hheader
  · cases hheader

end Directive

section Readers

variable {line : Nat} {first : Line} {rest : List Line} {b : Block}

/-- What a reader reads: a block on the lines from the first one on. -/
structure Block.StartsAt (b : Block) (line : Nat) (rest more after : List Line) : Prop where
  lines_eq : rest = more ++ after
  line_eq : b.line = line
  endLine_eq : b.endLine = line + more.length

theorem Block.StartsAt.spans {ls before more after : List Line} {shape : Line → List Line → List Line → Prop}
    (h : b.StartsAt (1 + before.length) rest more after) (hls : ls = before ++ first :: rest)
    (hshape : shape first more after) : b.Spans ls shape :=
  ⟨before, first, more, after, by rw [hls, h.lines_eq], by rw [h.line_eq, Nat.add_comm],
    by rw [h.endLine_eq, h.line_eq], hshape⟩

theorem Document.readText_shape (hfirst : isSpecial first = false) (h : (readText line first rest).block = some b) :
    ∃ more after, b.StartsAt line rest more after ∧ Block.TextShape b.content first more after := by
  cases h
  refine ⟨rest.takeWhile (!isSpecial ·), rest.dropWhile (!isSpecial ·),
    ⟨List.takeWhile_append_dropWhile.symm, rfl, rfl⟩, List.forall_mem_cons.2 ⟨hfirst, fun l hl => ?_⟩, rfl,
    fun l hl => ?_⟩
  · simpa using List.mem_takeWhile_imp hl
  · simpa using not_of_mem_head?_dropWhile hl

theorem Directive.read_shape (h : (read line first rest).block = some b) :
    ∃ more after trailing, b.StartsAt line rest more after ∧
      Block.DirectiveShape b.name first more after trailing := by
  obtain ⟨header, hheader, rfl⟩ := exists_header_of_read h
  have hmatches : Matches (trim first) (String.ofList header.name).toList header.trailing := by
    rw [String.toList_ofList]
    exact matches_of_header? hheader
  obtain ⟨after, hafter⟩ := below_isPrefix header rest
  refine ⟨below header rest, after, header.trailing, ⟨hafter.symm, rfl, rfl⟩, hmatches, fun hvisible => ?_,
    fun l hl => isFlagLine_of_mem_below hl, fun hblank l hl => ?_⟩
  · exact below_of_visible (Bool.not_eq_true _ ▸ hvisible)
  · have hsplit : rest.takeWhile isFlagLine ++ after = rest.takeWhile isFlagLine ++ rest.dropWhile isFlagLine := by
      rw [← below_of_blank hblank, hafter, below_of_blank hblank, List.takeWhile_append_dropWhile]
    rw [List.append_cancel_left hsplit] at hl
    exact not_of_mem_head?_dropWhile hl

theorem Fence.read_shape (hfirst : isOpen first = true) (h : (read line first rest).block = some b) :
    ∃ body last after, b.StartsAt line rest (body ++ [last]) after ∧ Block.CodeShape b.content first body last := by
  simp only [read] at h
  split at h
  · rename_i hshort
    cases h
    have hsplit : rest.takeWhile (!isClose ·) ++ rest.dropWhile (!isClose ·) = rest := List.takeWhile_append_dropWhile
    cases hlast : rest.dropWhile (!isClose ·) with
    | nil =>
        rw [hlast, List.append_nil] at hsplit
        rw [hsplit] at hshort
        exact absurd hshort (Nat.lt_irrefl _)
    | cons last after =>
        rw [hlast] at hsplit
        have hclose : (!isClose last) = false :=
          not_of_mem_head?_dropWhile (p := (!isClose ·)) (by rw [hlast]; rfl)
        refine ⟨rest.takeWhile (!isClose ·), last, after, ⟨by simpa using hsplit.symm, rfl, ?_⟩, hfirst,
          by simpa using hclose, fun l hl => ?_, rfl⟩
        · rw [List.length_append, List.length_singleton, Nat.add_assoc]
        · simpa using List.mem_takeWhile_imp hl
  · cases h

theorem Comment.read_shape (hfirst : isCommentStart first = true) (h : (read line first rest).block = some b) :
    ∃ more after, b.StartsAt line rest more after ∧ Block.CommentShape first more after := by
  have hopens : openMark <+: trim first := List.isPrefixOf_iff_prefix.1 hfirst
  unfold read at h
  split at h
  · cases h
    exact ⟨[], rest, ⟨rfl, rfl, rfl⟩, hopens, .inl rfl⟩
  split at h
  · cases h
    exact ⟨[], rest, ⟨rfl, rfl, rfl⟩, hopens, .inl rfl⟩
  · cases h
    rcases upToClose_cases rest with ⟨body, head, tail, after, rfl, hbody, htaken, -⟩ | ⟨hrest, htaken, -⟩
    · have hlast : closeMark <:+: head ++ (closeMark ++ tail) := ⟨head, tail, List.append_assoc _ _ _⟩
      refine ⟨body ++ [_], after, ⟨by simp, rfl, ?_⟩, hopens, .inr (.inl ⟨body, _, rfl, hlast, hbody⟩)⟩
      simp only [block, htaken, List.length_append, List.length_singleton]
    · exact ⟨rest, [], ⟨by simp, rfl, by simp only [block, htaken]⟩, hopens, .inr (.inr ⟨rfl, hrest⟩)⟩

theorem Fence.name_of_read (h : (read line first rest).block = some b) : b.name = Block.codeName := by
  simp only [read] at h
  split at h
  · cases h
    rfl
  · cases h

/-- Whatever a reader makes a block of has the shape of its kind. -/
theorem Document.readBlock_shape {ls before : List Line} (hls : ls = before ++ first :: rest)
    (h : (readBlock (1 + before.length) first rest).block = some b) : b.HasShape ls := by
  unfold readBlock at h
  split at h
  · obtain ⟨more, after, trailing, hstarts, hshape⟩ := Directive.read_shape h
    exact .directive (Directive.position_of_read h) (hstarts.spans hls ⟨trailing, hshape⟩)
  rename_i hdirective
  split at h
  · rename_i hopens
    obtain ⟨more, after, hstarts, hshape⟩ := Comment.read_shape hopens h
    obtain ⟨text, endLine, hread⟩ := Comment.read_block (1 + before.length) first rest
    cases hread.symm.trans h
    exact .comment rfl rfl (hstarts.spans hls hshape)
  rename_i hcomment
  split at h
  · rename_i hopens
    obtain ⟨body, last, after, hstarts, hshape⟩ := Fence.read_shape hopens h
    exact .code (Fence.isPlain_of_read h).position (Fence.name_of_read h) (hstarts.spans hls ⟨body, last, rfl, hshape⟩)
  · rename_i hfence
    obtain ⟨more, after, hstarts, hshape⟩ := readText_shape (by simp [isSpecial, hdirective, hcomment, hfence]) h
    exact .text (isPlain_of_readText h).position (by cases h; rfl) (hstarts.spans hls hshape)

end Readers

/-! ### Documents -/

namespace Document

/-- What becomes of a line that begins with the sign of a directive. -/
inductive Explains (d : Document) (line : Nat) : Prop
  | directive (b : Block) (mem : b ∈ d.blocks) (position : b.position.isSome = true) (first : b.line = line)
  | invalid (p : Problem) (mem : p ∈ d.problems) (code : p.code = Problem.badDirectiveCode)
      (at_line : p.line = some (line : Int))
  | inside (b : Block) (mem : b ∈ d.blocks) (position : b.position = none)
      (name : b.name = Block.codeName ∨ b.name = Block.commentName) (within : b.line ≤ line ∧ line ≤ b.endLine)
  | unclosed (p : Problem) (mem : p ∈ d.problems) (code : p.code = Problem.openFenceCode) (behind : p.lineNumber ≤ line)

/-- Every block has the shape of its kind, and every sign is read as one, found wrong, or inside something else. -/
structure Shaped (d : Document) (ls : List Line) : Prop where
  blocks : ∀ b ∈ d.blocks, b.HasShape ls
  signs : ∀ i line, ls[i]? = some line → Directive.isDirectiveLine line = true → d.Explains (i + 1)

theorem isSpecial_of_isDirectiveLine {line : Line} (h : Directive.isDirectiveLine line = true) :
    isSpecial line = true := by
  rw [isSpecial, h, Bool.true_or, Bool.true_or]

variable {d : Document} {ls : List Line}

/-- A line of a block is its first line or one of the others. -/
theorem getElem?_of_spans {b : Block} {shape : Line → List Line → List Line → Prop} (h : b.Spans ls shape) {i : Nat}
    {line : Line} (hline : ls[i]? = some line) (hfirst : b.line ≤ i + 1) (hlast : i + 1 ≤ b.endLine) :
    ∃ first more after, shape first more after ∧ (b.line = i + 1 ∧ line = first ∨ line ∈ more) := by
  obtain ⟨before, first, more, after, rfl, hb, hend, hshape⟩ := h
  refine ⟨first, more, after, hshape, ?_⟩
  rw [List.getElem?_append_right (by omega)] at hline
  cases hi : i - before.length with
  | zero =>
      rw [hi] at hline
      cases hline
      exact .inl ⟨by omega, rfl⟩
  | succ j =>
      rw [hi, List.getElem?_cons_succ, List.getElem?_append_left (by omega)] at hline
      exact .inr (List.mem_of_getElem? hline)

/-- A sign within a block is its first line, or the block is code or a comment. -/
theorem explains_of_block {b : Block} (hb : b ∈ d.blocks) (hshape : b.HasShape ls) {i : Nat} {line : Line}
    (hline : ls[i]? = some line) (hsign : Directive.isDirectiveLine line = true) (hfirst : b.line ≤ i + 1)
    (hlast : i + 1 ≤ b.endLine) : d.Explains (i + 1) := by
  have hspecial := isSpecial_of_isDirectiveLine hsign
  cases hshape with
  | text position name spans =>
      obtain ⟨first, more, after, hshape, hwhere⟩ := getElem?_of_spans spans hline hfirst hlast
      have hmem : line ∈ first :: more := by
        rcases hwhere with ⟨-, rfl⟩ | hmore
        · exact List.mem_cons_self
        · exact List.mem_cons_of_mem first hmore
      exact absurd (hspecial.symm.trans (hshape.plain line hmem)) Bool.noConfusion
  | directive position spans =>
      obtain ⟨first, more, after, ⟨trailing, hshape⟩, hwhere⟩ := getElem?_of_spans spans hline hfirst hlast
      rcases hwhere with ⟨hline, -⟩ | hmore
      · exact .directive b hb position hline
      · exact absurd ((hshape.flagLines line hmore).symm.trans (Directive.not_isFlagLine_of_isSpecial hspecial))
          Bool.noConfusion
  | code position name spans => exact .inside b hb position (.inl name) ⟨hfirst, hlast⟩
  | comment position name spans => exact .inside b hb position (.inr name) ⟨hfirst, hlast⟩

theorem ofLines_shaped (ls : List Line) : (ofLines 1 ls).Shaped ls := by
  have hcovers := ofLines_covers ls
  have hblocks : ∀ b ∈ (ofLines 1 ls).blocks, b.HasShape ls := by
    intro b hb
    obtain ⟨r, hr, hb⟩ := List.mem_filterMap.1 hb
    obtain ⟨k, first, rest, hdrop, rfl⟩ := exists_of_mem_readings hr
    have hk : (ls.take k).length = k := by
      have hlength := congrArg List.length hdrop
      rw [List.length_drop, List.length_cons] at hlength
      rw [List.length_take]
      omega
    have hls : ls.take k ++ first :: rest = ls := by rw [← hdrop, List.take_append_drop]
    exact readBlock_shape hls.symm (by rwa [hk])
  refine ⟨hblocks, fun i line hline hsign => ?_⟩
  obtain ⟨interval, hmem, hfirst, hlast⟩ := hcovers.tiles.exists_of_le (n := i + 1) (by omega)
    (List.getElem?_eq_some_iff.1 hline).1
  rcases List.mem_append.1 (List.mem_mergeSort.1 hmem) with hmem | hmem
  · obtain ⟨b, hb, rfl⟩ := List.mem_map.1 hmem
    exact explains_of_block hb (hblocks b hb) hline hsign hfirst hlast
  · obtain ⟨p, hp, rfl⟩ := List.mem_map.1 hmem
    obtain ⟨hpline, -, hcode⟩ := hcovers.problems_found p hp
    rcases hcode with hcode | hcode
    · have hlast : i + 1 ≤ p.lineNumber := by
        have hother : Problem.badDirectiveCode ≠ Problem.openFenceCode := by decide
        simpa only [Problem.interval, hcode, if_neg hother] using hlast
      have hhere : p.lineNumber = i + 1 := Nat.le_antisymm hfirst hlast
      exact .invalid p hp hcode (by rw [hpline, hhere])
    · exact .unclosed p hp hcode hfirst

/-- Every block of a text has the shape of its kind, and no sign of a directive goes lost. -/
theorem parse_shaped (text : String) : (parse text).Shaped (lines text.toList) := by
  unfold parse
  split
  · rename_i hblank
    refine ⟨nofun, fun i line hline hsign => ?_⟩
    refine absurd ?_ (not_isBlank_of_isSpecial (isSpecial_of_isDirectiveLine hsign))
    have hall := List.all_eq_true.1 hblank
    exact List.all_eq_true.2 fun c hc => hall c (subset_of_mem_lines (List.mem_of_getElem? hline) hc)
  · exact ofLines_shaped _

/-- By its name a directive may pass for text, with a sign in it and no problem reported. -/
theorem not_textShape_of_plainText :
    let text := "@plainText --prompt hi\n"
    (parse text).problems = [] ∧
      (parse text).blocks.map (fun b => (b.name, b.isDirective, b.line)) = [(Block.textName, false, 1)] ∧
      ∀ b ∈ (parse text).blocks, ¬b.Spans (lines text.toList) (Block.TextShape b.content) := by
  intro text
  have hspecial : ∀ l ∈ lines text.toList, isSpecial l = true := by decide +kernel
  refine ⟨by decide +kernel, by decide +kernel, fun b _ hspans => ?_⟩
  obtain ⟨before, first, more, after, hlines, -, -, hshape⟩ := hspans
  have hfirst : first ∈ lines text.toList := by
    rw [hlines]
    exact List.mem_append_right before List.mem_cons_self
  exact absurd ((hspecial first hfirst).symm.trans (hshape.plain first List.mem_cons_self)) Bool.noConfusion

end Document

end Playbook
