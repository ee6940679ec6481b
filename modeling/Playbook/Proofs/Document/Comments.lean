import Playbook.Document.Comment
import Playbook.Proofs.Text.Search
/-!
# Where a comment ends

There are two ways to find the end of a comment. The lines, the first of them behind its opening marker, are searched
for a closing marker; but an opening line that ends with a marker is taken for the whole comment. The two agree unless
that marker is not the first one on its line: then the content goes on up to it, and holds the first.
-/

namespace Playbook

open Text

/-- The needle stands on line `n`, and what is in front of it is `before`. -/
def Text.StandsOn (needle : List Char) (ls : List Line) (before : List Char) (n : Nat) : Prop :=
  ∃ front head tail behind, ls = front ++ (head ++ (needle ++ tail)) :: behind ∧
    before = joinLines (front ++ [head]) ∧ n = front.length

namespace Comment

/-- The opening line behind its marker. -/
def opened (first : Line) : Line := (trim first).drop openMark.length

/-- The opening line ends with a closing marker that is not the first one. -/
def Overruns (first : Line) : Prop := ∃ text, opened first = text ++ closeMark ∧ closeMark <:+: text

/-- Where the comment on these lines ends, `n` lines below the opening one, and what its content is. -/
structure Ends (first : Line) (rest : List Line) (content : List Char) (n : Nat) : Prop where
  closed : ∀ before after, FirstCut closeMark (joinLines (opened first :: rest)) before after →
    StandsOn closeMark (opened first :: rest) before n ∧ (content = trim before ↔ ¬Overruns first)
  unclosed : ¬closeMark <:+: joinLines (opened first :: rest) →
    content = trim (joinLines (opened first :: rest)) ∧ n = rest.length
  whole : ∀ text, opened first = text ++ closeMark → content = trim text
  holdsMark : closeMark <:+: content ↔ Overruns first

theorem closeMark_ne_nil : closeMark ≠ [] := List.cons_ne_nil _ _

theorem closeMark_inLine : '\n' ∉ closeMark := by decide

theorem head_closeMark : ∀ c ∈ closeMark.head?, isBlankChar c = false := by
  rintro _ ⟨⟩
  rfl

theorem last_closeMark : ∀ c ∈ closeMark.getLast?, isBlankChar c = false := by
  rintro _ ⟨⟩
  rfl

theorem closeMark_isInfix_trim_iff (cs : List Char) : closeMark <:+: trim cs ↔ closeMark <:+: cs :=
  isInfix_trim_iff head_closeMark last_closeMark closeMark_ne_nil cs

/-- No closing marker reaches into the next one. -/
theorem splitFirst?_closeMark {text : List Char} (h : ¬closeMark <:+: text) :
    splitFirst? closeMark (text ++ closeMark) = some (text, []) := by
  induction text with
  | nil => rfl
  | cons c text ih =>
      rw [List.infix_cons_iff, not_or] at h
      -- A marker that begins here and reaches into the other one would have one of its dashes for the last character.
      have hopens : ¬closeMark <+: c :: (text ++ closeMark) := by
        intro hprefix
        rcases text with - | ⟨d, - | ⟨e, text⟩⟩
        · simp [closeMark] at hprefix
        · simp [closeMark] at hprefix
        · refine h.1 ?_
          simpa [closeMark] using hprefix
      rw [List.cons_append, splitFirst?_cons hopens, ih h.2]
      rfl

/-! ### The search for the marker -/

/-- The lines that are taken end at the first marker in all of them, or there is none. -/
theorem upToClose_cases (ls : List Line) :
    (∃ front head tail behind, ls = front ++ (head ++ (closeMark ++ tail)) :: behind ∧
      (∀ l ∈ front, ¬closeMark <:+: l) ∧ upToClose ls = (front ++ [head], front.length + 1) ∧
      FirstCut closeMark (joinLines ls) (joinLines (front ++ [head])) (joinLines (tail :: behind))) ∨
    ((∀ l ∈ ls, ¬closeMark <:+: l) ∧ upToClose ls = (ls, ls.length) ∧ ¬closeMark <:+: joinLines ls) := by
  simp only [← splitFirst?_eq_some_iff, ← splitFirst?_eq_none_iff]
  -- A marker holds no line feed, so that it stands on the first line or in what is joined of the others.
  induction ls with
  | nil => exact .inr ⟨List.forall_mem_nil _, rfl, rfl⟩
  | cons line rest ih =>
      rw [splitFirst?_joinLines closeMark_ne_nil closeMark_inLine, upToClose]
      cases hline : splitFirst? closeMark line with
      | some parts =>
          refine .inl ⟨[], parts.1, parts.2, rest, ?_, List.forall_mem_nil _, rfl, rfl⟩
          rw [← (firstCut_of_splitFirst? hline).split]
          rfl
      | none =>
          rcases ih with ⟨front, head, tail, behind, rfl, hfront, htaken, hcut⟩ | ⟨hrest, htaken, hnone⟩
          · refine .inl ⟨line :: front, head, tail, behind, rfl, List.forall_mem_cons.2 ⟨hline, hfront⟩, ?_, ?_⟩
            · rw [htaken]
              rfl
            · rw [hcut, List.cons_append, joinLines_cons line (by simp)]
              rfl
          · rw [htaken, hnone]
            exact .inr ⟨List.forall_mem_cons.2 ⟨hline, hrest⟩, rfl, rfl⟩

/-! ### The opening line -/

section Opening

variable {first : Line} (hstart : isCommentStart first = true)

include hstart

theorem trim_of_start : trim first = openMark ++ opened first :=
  (List.prefix_iff_eq_append.1 (List.isPrefixOf_iff_prefix.1 hstart)).symm

theorem exists_margin : ∃ margin, (∀ c ∈ margin, isBlankChar c = true) ∧ opened first = margin ++ opening first := by
  have hopening : opening first = trimStart (opened first) := congrArg trimStart (if_pos hstart)
  refine ⟨(opened first).takeWhile isBlankChar, fun c hc => List.mem_takeWhile_imp hc, ?_⟩
  rw [hopening]
  exact List.takeWhile_append_dropWhile.symm

theorem isComment_iff : isComment first = true ↔ closeMark <:+ opened first := by
  have hprefix : openMark.isPrefixOf (trim first) = true := hstart
  rw [isComment, isFull, hprefix, Bool.true_and, Bool.and_eq_true, List.isSuffixOf_iff_suffix, decide_eq_true_iff,
    trim_of_start hstart, List.length_append]
  constructor
  · rintro ⟨hsuffix, hlength⟩
    have hthree : closeMark.length ≤ (opened first).length := Nat.le_of_add_le_add_left hlength
    exact List.suffix_of_suffix_length_le hsuffix (List.suffix_append openMark _) hthree
  · intro hsuffix
    exact ⟨hsuffix.trans (List.suffix_append openMark _), Nat.add_le_add_left hsuffix.length_le _⟩

theorem content_of_opened {text : List Char} (h : opened first = text ++ closeMark) : content first = trim text := by
  have hlength : (openMark ++ (text ++ closeMark)).length - 3 = (openMark ++ text).length := by
    simp [closeMark, ← Nat.add_assoc]
  rw [content, inner, trim_of_start hstart, h, hlength, ← List.append_assoc, List.take_left]
  rfl

/-- The margin of the opening line, and that line where nothing else is on it, are cut off with the blanks. -/
theorem trim_joinLines_opening (more : List Line) :
    trim (joinLines (if opening first = [] then more else opening first :: more)) =
      trim (joinLines (opened first :: more)) := by
  obtain ⟨margin, hmargin, hopened⟩ := exists_margin hstart
  have hjoin : joinLines (opened first :: more) = margin ++ joinLines (opening first :: more) := by
    rw [hopened]
    cases more with
    | nil => rfl
    | cons next more => exact List.append_assoc _ _ _
  rw [hjoin, trim_margin hmargin]
  split
  · rename_i hnil
    rw [hnil]
    cases more with
    | nil => rfl
    | cons next more => exact (@trim_margin ['\n'] (List.forall_mem_singleton.2 rfl) _).symm
  · rfl

/-- But for such a line, a comment is the lines up to the marker. -/
theorem read_of_not_overruns (h : ¬Overruns first) (line : Nat) (rest : List Line) :
    ∃ n, (upToClose (opened first :: rest)).2 = n + 1 ∧ read line first rest =
      ⟨some (block (trim (joinLines (upToClose (opened first :: rest)).1)) line (line + n)), none, 1 + n⟩ := by
  by_cases hfull : isComment first = true
  · obtain ⟨text, htext⟩ := (isComment_iff hstart).1 hfull
    have hnone : ¬closeMark <:+: text := fun hmark => h ⟨text, htext.symm, hmark⟩
    have hscan : upToClose (opened first :: rest) = ([text], 1) := by
      rw [upToClose, ← htext, splitFirst?_closeMark hnone]
    rw [hscan, read, if_pos hfull, content_of_opened hstart htext.symm]
    exact ⟨0, rfl, rfl⟩
  obtain ⟨margin, hmargin, hopened⟩ := exists_margin hstart
  have hsplit := splitFirst?_margin head_closeMark closeMark_ne_nil hmargin (opening first)
  rw [← hopened] at hsplit
  rw [read, if_neg hfull, upToClose, hsplit]
  cases splitFirst? closeMark (opening first) with
  | some parts =>
      refine ⟨0, rfl, ?_⟩
      change _ = (⟨some (block (trim (margin ++ parts.1)) line line), none, 1⟩ : Reading)
      rw [trim_margin hmargin]
  | none =>
      refine ⟨(upToClose rest).2, rfl, ?_⟩
      simp only [Option.map_none, trim_joinLines_opening hstart]

/-- An opening line that ends with a marker is the whole comment. -/
theorem read_of_whole {text : List Char} (h : opened first = text ++ closeMark) (line : Nat) (rest : List Line) :
    read line first rest = ⟨some (block (trim text) line line), none, 1⟩ := by
  rw [read, if_pos ((isComment_iff hstart).2 ⟨text, h.symm⟩), content_of_opened hstart h]

end Opening

/-! ### The two ways to the end -/

section Ends

variable {first : Line}

theorem firstCut_of_opened (h : closeMark <:+: opened first) (rest : List Line) :
    ∃ head tail, opened first = head ++ (closeMark ++ tail) ∧
      FirstCut closeMark (joinLines (opened first :: rest)) head (joinLines (tail :: rest)) := by
  cases hline : splitFirst? closeMark (opened first) with
  | none => exact absurd h (splitFirst?_eq_none_iff.1 hline)
  | some parts =>
      refine ⟨parts.1, parts.2, (firstCut_of_splitFirst? hline).split, firstCut_of_splitFirst? ?_⟩
      rw [splitFirst?_joinLines closeMark_ne_nil closeMark_inLine, hline]

theorem ends_of_overruns {text : List Char} (h : opened first = text ++ closeMark) (hmark : closeMark <:+: text)
    (rest : List Line) : Ends first rest (trim text) 0 := by
  have hovers : Overruns first := ⟨text, h, hmark⟩
  have hholds : closeMark <:+: trim text := (closeMark_isInfix_trim_iff text).2 hmark
  obtain ⟨head, tail, hopened, hfirst⟩ := firstCut_of_opened ⟨text, [], by rw [h, List.append_nil]⟩ rest
  refine ⟨fun before after hcut => ?_, fun hnone => ?_, fun text' h' => ?_, iff_of_true hholds hovers⟩
  · obtain ⟨rfl, -⟩ := hcut.unique hfirst
    have hstands : StandsOn closeMark (opened first :: rest) before 0 :=
      ⟨[], before, tail, rest, by rw [← hopened]; rfl, rfl, rfl⟩
    refine ⟨hstands, iff_of_false (fun heq => ?_) (not_not_intro hovers)⟩
    rw [heq, closeMark_isInfix_trim_iff] at hholds
    exact hcut.not_isInfix closeMark_ne_nil hholds
  · exact absurd ⟨head, _, by rw [hfirst.split, List.append_assoc]⟩ hnone
  · rw [List.append_cancel_right (h.symm.trans h')]

theorem ends_of_scan (h : ¬Overruns first) {rest : List Line} {n : Nat}
    (hn : (upToClose (opened first :: rest)).2 = n + 1)
    (hwhole : ∀ text, opened first = text ++ closeMark →
      trim (joinLines (upToClose (opened first :: rest)).1) = trim text) :
    Ends first rest (trim (joinLines (upToClose (opened first :: rest)).1)) n := by
  rcases upToClose_cases (opened first :: rest) with
    ⟨front, head, tail, behind, hls, -, htaken, hfirst⟩ | ⟨-, htaken, hnone⟩
  · rw [htaken] at hn hwhole ⊢
    refine ⟨fun before after hcut => ?_, fun hnone => ?_, hwhole, iff_of_false ?_ h⟩
    · obtain ⟨rfl, -⟩ := hcut.unique hfirst
      exact ⟨⟨front, head, tail, behind, hls, rfl, (Nat.succ.inj hn).symm⟩, iff_of_true rfl h⟩
    · exact absurd ⟨_, _, by rw [hfirst.split, List.append_assoc]⟩ hnone
    · rw [closeMark_isInfix_trim_iff]
      exact hfirst.not_isInfix closeMark_ne_nil
  · rw [htaken] at hn hwhole ⊢
    refine ⟨fun before after hcut => ?_, fun _ => ⟨rfl, (Nat.succ.inj hn).symm⟩, hwhole, iff_of_false ?_ h⟩
    · exact absurd ⟨before, after, by rw [hcut.split, List.append_assoc]⟩ hnone
    · rwa [closeMark_isInfix_trim_iff]

/-- **The end of a comment.** A comment ends at the first closing marker, or without one with the last line; but an
opening line that ends with a marker is a comment up to that one, whatever is before it. -/
theorem read_ends (hstart : isCommentStart first = true) (line : Nat) (rest : List Line) :
    ∃ content n, read line first rest = ⟨some (block content line (line + n)), none, 1 + n⟩ ∧
      Ends first rest content n := by
  by_cases hovers : Overruns first
  · obtain ⟨text, htext, hmark⟩ := hovers
    exact ⟨trim text, 0, read_of_whole hstart htext line rest, ends_of_overruns htext hmark rest⟩
  · obtain ⟨n, hn, hread⟩ := read_of_not_overruns hstart hovers line rest
    refine ⟨_, n, hread, ends_of_scan hovers hn fun text htext => ?_⟩
    have hsame := hread.symm.trans (read_of_whole hstart htext line rest)
    have hcontent := congrArg Block.content (Option.some.inj (congrArg Reading.block hsame))
    exact String.ofList_injective hcontent

/-- A comment over two lines, with a second marker behind its end. -/
theorem read_ends_later :
    let first := "  <!-- a".toList
    let rest := ["b --> c".toList, "--> d".toList]
    isCommentStart first = true ∧
      ∃ content n, read 3 first rest = ⟨some (block content 3 (3 + n)), none, 1 + n⟩ ∧ Ends first rest content n := by
  intro first rest
  have hstart : isCommentStart first = true := by decide
  exact ⟨hstart, read_ends hstart 3 rest⟩

/-- Text behind the first marker is taken for text of the comment if another marker ends the line. -/
theorem not_trim_before : ¬ ∀ (line : Nat) (first : Line) (rest : List Line) (before after : List Char) (b : Block),
    isCommentStart first = true → FirstCut closeMark (joinLines (opened first :: rest)) before after →
      (read line first rest).block = some b → b.content = String.ofList (trim before) := by
  intro hall
  let first := "<!-- a --> b -->".toList
  have hcut : FirstCut closeMark (joinLines [opened first]) " a ".toList " b -->".toList :=
    firstCut_of_splitFirst? (by decide)
  have hcontent := hall 1 first [] _ _ _ (by decide) hcut rfl
  exact absurd hcontent (by decide)

end Ends

end Comment

end Playbook
