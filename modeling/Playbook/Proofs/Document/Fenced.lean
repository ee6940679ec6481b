import Playbook.Proofs.Document.Append
import Playbook.Proofs.Document.Written
/-!
# Code in writing

Code is written between two fences, and nothing in it is read as anything else: directives, marks of comments and longer
fences are lines like all others, up to the line that is a closing fence. So fenced code comes out of a document as it
was put in, and what stands in front of it and behind it is read as if it stood alone.
-/

namespace Playbook

open Text

/-! ### Lines that end -/

namespace Text

/-- Lines with a line feed behind each of them. -/
def endLines (ls : List Line) : List Char := ls.flatMap (· ++ ['\n'])

/-- A line in one piece, which its end takes nothing away from. -/
structure IsWhole (line : Line) : Prop where
  inLine : '\n' ∉ line
  noReturn : line.getLast? ≠ some '\r'

theorem dropReturn_of_isWhole {line : Line} (h : IsWhole line) : dropReturn line = line := by
  rw [dropReturn, if_neg h.noReturn]

theorem endLines_cons (line : Line) (ls : List Line) : endLines (line :: ls) = line ++ '\n' :: endLines ls := by
  simp [endLines]

/-- Whole lines are found again, and the lines of what follows behind them. -/
theorem lines_endLines_append {ls : List Line} (h : ∀ l ∈ ls, IsWhole l) (cs : List Char) :
    lines (endLines ls ++ cs) = ls ++ lines cs := by
  induction ls with
  | nil => rfl
  | cons line ls ih =>
      obtain ⟨hline, hls⟩ := List.forall_mem_cons.1 h
      calc lines (endLines (line :: ls) ++ cs)
        _ = lines (line ++ '\n' :: (endLines ls ++ cs)) := by rw [endLines_cons, List.append_assoc, List.cons_append]
        _ = dropReturn line :: lines (endLines ls ++ cs) := by
          rw [lines, rawLines_line hline.inLine, List.map_cons, lines]
        _ = line :: (ls ++ lines cs) := by rw [dropReturn_of_isWhole hline, ih hls]

theorem joinLines_eq_intercalate (ls : List Line) : joinLines ls = List.intercalate ['\n'] ls := by
  induction ls with
  | nil => rfl
  | cons line ls ih =>
      cases ls with
      | nil => simp [joinLines]
      | cons next ls => simp [joinLines, ih, List.intercalate_cons_cons]

theorem noBlank_of_all {cs : List Char} (h : cs.all (!isBlankChar ·) = true) : ∀ c ∈ cs, isBlankChar c = false := by
  simpa using h

theorem blank_append (a b : String) : blank (a ++ b) = (blank a && blank b) := by
  simp [blank, isBlank]

end Text

/-! ### Fenced code -/

namespace Written

/-- A language and lines of code that may stand between fences. -/
structure Code where
  tag : List Char
  tag_noBlank : ∀ c ∈ tag, isBlankChar c = false
  body : List Line
  body_isWhole : ∀ l ∈ body, IsWhole l
  body_noClose : ∀ l ∈ body, trim l ≠ Fence.mark

namespace Code

variable (code : Code)

def opening : Line := Fence.mark ++ code.tag

def lines : List Line := code.opening :: (code.body ++ [Fence.mark])

def text : String := String.ofList (endLines code.lines)

/-- The block of the code if its opening fence is the first line of all. -/
def block : Block where
  name := Block.codeName
  flags := []
  content := "\n".intercalate (code.body.map String.ofList)
  line := 1
  endLine := code.body.length + 2
  position := none
  language := if code.tag = [] then none else some (String.ofList code.tag)

theorem opening_noBlank : ∀ c ∈ code.opening, isBlankChar c = false := by
  intro c hc
  rcases List.mem_append.1 hc with hmark | htag
  · exact noBlank_of_all (by decide) c hmark
  · exact code.tag_noBlank c htag

theorem trim_opening : trim code.opening = code.opening := by
  have hne : code.opening ≠ [] := by simp [opening, Fence.mark]
  have hmargin : isBlank ([] : List Char) = true := rfl
  exact trim_of_isTight hmargin (isTight_of_noBlank hne code.opening_noBlank)

theorem tag?_opening : Fence.tag? code.opening = some code.tag := by
  have hprefix : Fence.mark.isPrefixOf code.opening = true := List.isPrefixOf_iff_prefix.2 (List.prefix_append _ _)
  have htag : code.opening.drop 3 = code.tag := rfl
  have hnone : code.tag.any isBlankChar = false := by
    rw [List.any_eq_false]
    intro c hc
    simp [code.tag_noBlank c hc]
  rw [Fence.tag?, hprefix, htag, hnone]
  rfl

theorem isWhole_of_noBlank {line : Line} (h : ∀ c ∈ line, isBlankChar c = false) : IsWhole line where
  inLine := not_mem_of_noBlank h
  noReturn := by
    intro hlast
    exact absurd (h _ (List.mem_of_getLast? hlast)) (by decide)

theorem isWhole_lines : ∀ l ∈ code.lines, IsWhole l := by
  intro l hl
  rcases List.mem_cons.1 hl with rfl | hl
  · exact isWhole_of_noBlank code.opening_noBlank
  · rcases List.mem_append.1 hl with hbody | hmark
    · exact code.body_isWhole l hbody
    · rw [List.mem_singleton.1 hmark]
      exact isWhole_of_noBlank (noBlank_of_all (by decide))

/-- The opening fence is nothing else: its line begins with a backtick. -/
theorem isOpen_only : Directive.isDirectiveLine code.opening = false ∧ Comment.isCommentStart code.opening = false ∧
    Fence.isOpen code.opening = true := by
  refine ⟨?_, ?_, ?_⟩
  · rw [Directive.isDirectiveLine, code.trim_opening]
    rfl
  · rw [Comment.isCommentStart, code.trim_opening]
    rfl
  · rw [Fence.isOpen, code.trim_opening, code.tag?_opening]
    rfl

theorem isSpecial_opening : Document.isSpecial code.opening = true := by
  obtain ⟨hdirective, hcomment, hopen⟩ := code.isOpen_only
  rw [Document.isSpecial, hdirective, hcomment, hopen]
  rfl

theorem language_opening : Fence.language code.opening = code.block.language := by
  rw [Fence.language, code.trim_opening, code.tag?_opening, block]
  cases code.tag with
  | nil => rfl
  | cons c cs => rfl

/-- The reader goes through the body, whatever is in it, and stops behind the closing fence. -/
theorem takeWhile_body (rest : List Line) :
    (code.body ++ Fence.mark :: rest).takeWhile (!Fence.isClose ·) = code.body := by
  refine (stretch_append ?_ ?_).1
  · intro l hl
    simpa [Fence.isClose] using code.body_noClose l hl
  · intro l hl
    cases hl
    decide

theorem read_lines (rest : List Line) :
    Document.readBlock 1 code.opening (code.body ++ Fence.mark :: rest) =
      ⟨some code.block, none, code.body.length + 2⟩ := by
  obtain ⟨hdirective, hcomment, hopen⟩ := code.isOpen_only
  have hcontent : String.ofList (joinLines code.body) = "\n".intercalate (code.body.map String.ofList) := by
    apply String.toList_injective
    rw [String.toList_ofList, String.toList_intercalate, joinLines_eq_intercalate]
    simp [Function.comp_def]
  have hshort : code.body.length < (code.body ++ Fence.mark :: rest).length := by
    simp only [List.length_append, List.length_cons]
    omega
  have hend : 1 + code.body.length + 1 = code.body.length + 2 := by omega
  rw [Document.readBlock, hdirective, hcomment, hopen]
  simp only [Bool.false_eq_true, if_false, if_true, Fence.read, code.takeWhile_body, if_pos hshort, hcontent, hend,
    code.language_opening]
  rfl

/-- The document of the code and of lines behind it. -/
theorem ofLines_lines_append (ms : List Line) :
    Document.ofLines 1 (code.lines ++ ms) =
      Document.mk [code.block] [] ++ (Document.ofLines 1 ms).down code.lines.length := by
  have hlines : code.lines ++ ms = code.opening :: (code.body ++ Fence.mark :: ms) := by simp [lines]
  have hrest : (code.body ++ Fence.mark :: ms).drop (code.body.length + 1) = ms := by
    rw [← List.drop_drop, List.drop_left]
    rfl
  have hlength : 1 + (code.body.length + 2) = 1 + code.lines.length := by simp [lines]
  rw [← Document.ofLines_down, hlines, Document.ofLines, Document.readings_cons, code.read_lines]
  change Document.mk (_ :: _) _ = Document.append _ _
  simp only [Nat.add_succ_sub_one, hrest, hlength]
  rfl

theorem not_blank_text (b : String) : blank (code.text ++ b) = false := by
  have hbacktick : '\x60' ∈ code.text.toList := by simp [text, endLines, lines, opening, Fence.mark]
  have htext : blank code.text = false := by
    rw [blank, isBlank, List.all_eq_false]
    exact ⟨'\x60', hbacktick, by decide⟩
  rw [blank_append, htext, Bool.false_and]

end Code

end Written

/-! ### Documents -/

namespace Document

/-- A text that is empty has no lines, and so neither blocks nor problems. -/
theorem parse_of_empty_or_visible {text : String} (h : text = "" ∨ blank text = false) :
    parse text = ofLines 1 (lines text.toList) := by
  rcases h with rfl | h
  · have hlines : lines "".toList = [] := rfl
    rw [hlines, ofLines, readings]
    rfl
  · exact parse_of_visible h

theorem append_assoc (d e g : Document) : d ++ e ++ g = d ++ (e ++ g) := by
  change append (append d e) g = append d (append e g)
  simp only [append, List.append_assoc]

theorem down_append (k : Nat) (d e : Document) : (d ++ e).down k = d.down k ++ e.down k := by
  change (append d e).down k = append (d.down k) (e.down k)
  simp only [append, down, List.map_append]

theorem ofLines_down_down (ls : List Line) (k m : Nat) :
    ((ofLines 1 ls).down k).down m = (ofLines 1 ls).down (m + k) := by
  rw [← ofLines_down, ← ofLines_down, ← ofLines_down, Nat.add_assoc, Nat.add_comm k m]

/-- A text that others may be appended to: nothing at all, or some lines in which nothing is left open. -/
def IsComplete (a : String) : Prop :=
  a = "" ∨ (a.toList.getLast? = some '\n' ∧ blank a = false ∧ (parse a).Closed (lines a.toList))

theorem IsComplete.parse_eq {a : String} (h : IsComplete a) : parse a = ofLines 1 (lines a.toList) := by
  apply parse_of_empty_or_visible
  rcases h with hempty | ⟨-, hvisible, -⟩
  · exact .inl hempty
  · exact .inr hvisible

theorem IsComplete.closed {a : String} (h : IsComplete a) : (ofLines 1 (lines a.toList)).Closed (lines a.toList) := by
  rw [← h.parse_eq]
  rcases h with rfl | ⟨-, -, hclosed⟩
  · exact ⟨nofun, nofun⟩
  · exact hclosed

theorem IsComplete.lines_append {a : String} (h : IsComplete a) (b : String) :
    lines (a ++ b).toList = lines a.toList ++ lines b.toList := by
  rw [String.toList_append]
  rcases h with rfl | ⟨hend, -, -⟩
  · rfl
  · exact Text.lines_append hend b.toList

/-- Fenced code is read as it was written, in any document: the text in front of it is read as before, and so is the
text behind it, some lines further down. -/
theorem parse_fenced (a b : String) (code : Written.Code) (ha : IsComplete a) (hb : b = "" ∨ blank b = false) :
    parse (a ++ code.text ++ b) =
      parse a ++ (Document.mk [code.block] []).down (lines a.toList).length ++
        (parse b).down ((lines a.toList).length + (code.body.length + 2)) := by
  have hvisible : blank (a ++ (code.text ++ b)) = false := by
    rw [blank_append, code.not_blank_text b, Bool.and_false]
  have htext : lines (code.text ++ b).toList = code.lines ++ lines b.toList := by
    rw [String.toList_append, Written.Code.text, String.toList_ofList]
    exact lines_endLines_append code.isWhole_lines b.toList
  have hspecial : ∀ l ∈ (code.lines ++ lines b.toList).head?, isSpecial l = true := by
    intro l hl
    cases hl
    exact code.isSpecial_opening
  have hlength : code.lines.length = code.body.length + 2 := by simp [Written.Code.lines]
  calc parse (a ++ code.text ++ b)
    _ = ofLines 1 (lines a.toList ++ (code.lines ++ lines b.toList)) := by
      rw [String.append_assoc, parse_of_visible hvisible, ha.lines_append, htext]
    _ = parse a ++ (ofLines 1 (code.lines ++ lines b.toList)).down (lines a.toList).length := by
      rw [ofLines_append ha.closed hspecial, ha.parse_eq]
    _ = parse a ++ ((Document.mk [code.block] []).down (lines a.toList).length ++
          (parse b).down ((lines a.toList).length + (code.body.length + 2))) := by
      rw [code.ofLines_lines_append, down_append, ofLines_down_down, hlength, parse_of_empty_or_visible hb]
    _ = _ := (append_assoc _ _ _).symm

/-- A comment in front, and a directive behind; the code holds a directive, a mark of a comment, a longer fence and a
line of blanks. -/
theorem parse_fenced_bash :
    let a := "<!-- note\n-->\n"
    let b := "@execute\n"
    let body : List Line :=
      ["@task --prompt x".toList, "<!--".toList, "\x60\x60\x60\x60".toList, " \t".toList, "\x60\x60\x60sh".toList]
    ∃ code : Written.Code, code.tag = "bash".toList ∧ code.body = body ∧ IsComplete a ∧ blank b = false ∧
      parse (a ++ code.text ++ b) =
        parse a ++ (Document.mk [code.block] []).down 2 ++ (parse b).down 9 := by
  intro a b body
  let code : Written.Code := ⟨"bash".toList, noBlank_of_all (by decide +kernel), body,
    fun l hl => ⟨(by decide +kernel : ∀ l ∈ body, '\n' ∉ l) l hl,
      (by decide +kernel : ∀ l ∈ body, l.getLast? ≠ some '\r') l hl⟩,
    (by decide +kernel : ∀ l ∈ body, trim l ≠ Fence.mark)⟩
  have ha : IsComplete a := .inr ⟨by decide +kernel, by decide +kernel, ⟨by decide +kernel, by decide +kernel⟩⟩
  have hb : blank b = false := by decide +kernel
  have hparse := parse_fenced a b code ha (.inr hb)
  have hlines : (lines a.toList).length = 2 := by decide +kernel
  rw [hlines] at hparse
  exact ⟨code, rfl, rfl, ha, hb, hparse⟩

end Document

end Playbook
