import Playbook.Document.Listing
import Playbook.Proofs.Document.Positions
import Playbook.Proofs.Document.Shapes
import Playbook.Proofs.Text.Escapes
import Playbook.Proofs.Text.LineEnds
/-!
# One line for each entry

A listing has a line for each block and for each problem, whatever the document holds. Names are without line ends,
values are written with escapes, a preview stops at the first break, and a problem repeats no more than one line of the
document. The first line of a text is looked up only where there is one.
-/

namespace Playbook

open Text

/-! ### Display lines -/

namespace Text

/-- The pieces of a text between its breaks. A return with a line feed is one break, and a break at the very end starts
no further piece. -/
def displayLines : List Char → List Line
  | [] => []
  | '\r' :: '\n' :: cs => [] :: displayLines cs
  | c :: cs => if isLineBreak c then [] :: displayLines cs else startLine c (displayLines cs)

/-- A text that is not empty has a first piece. -/
theorem head?_displayLines {cs : List Char} (h : cs ≠ []) :
    (displayLines cs).head? = some (firstDisplayLine cs) := by
  induction cs using displayLines.induct with
  | case1 => exact absurd rfl h
  | case2 cs _ => rfl
  | case3 c cs hpair hbreak _ =>
      rw [displayLines.eq_3 c cs hpair, if_pos hbreak, firstDisplayLine, List.takeWhile_cons_of_neg (by simp [hbreak])]
      rfl
  | case4 c cs hpair hvisible ih =>
      rw [displayLines.eq_3 c cs hpair, if_neg hvisible, firstDisplayLine,
        List.takeWhile_cons_of_pos (by simp [hvisible])]
      cases cs with
      | nil => rfl
      | cons d cs =>
          have hhead := ih (List.cons_ne_nil d cs)
          cases hlines : displayLines (d :: cs) with
          | nil => rw [hlines] at hhead; cases hhead
          | cons line rest =>
              rw [hlines] at hhead
              rw [startLine, List.head?_cons, Option.some.inj hhead, firstDisplayLine]

/-- A break is blank, so that no trimmed text begins with one. -/
theorem isBlankChar_of_isLineBreak {c : Char} (h : isLineBreak c = true) : isBlankChar c = true := by
  simp only [isLineBreak, isBlankChar, Bool.or_eq_true, Bool.and_eq_true, decide_eq_true_eq, beq_iff_eq] at h ⊢
  omega

theorem isPrefix_trimEnd {front : List Char} (hlast : ∃ c, front.getLast? = some c ∧ isBlankChar c = false)
    (back : List Char) : front <+: trimEnd (front ++ back) := by
  obtain ⟨c, hc, hvisible⟩ := hlast
  have hfront : front.reverse.dropWhile isBlankChar = front.reverse := by
    refine dropWhile_of_head ?_
    rw [List.head?_reverse, hc]
    rintro _ ⟨⟩
    exact hvisible
  rw [trimEnd, List.reverse_append, List.dropWhile_append, hfront]
  split
  · rw [List.reverse_reverse]
  · rw [List.reverse_append, List.reverse_reverse]
    exact List.prefix_append _ _

end Text

namespace Listing

/-! ### Previews -/

/-- A line of at most sixty characters; of a longer one fifty-seven, and an ellipsis. -/
def cut (first : Line) : List Char :=
  if previewLimit < first.length then first.take (previewLimit - 3) ++ ['.', '.', '.'] else first

/-- What a preview shows of a content: its first line, whole or the beginning of it, and nothing only if the content has
nothing to show. -/
structure IsPreview (content shown : List Char) : Prop where
  length_le : shown.length ≤ 60
  stands : shown <+: trim content ∨
    ∃ front, shown = front ++ ['.', '.', '.'] ∧ front.length = 57 ∧ front <+: trim content
  no_break : ∀ c ∈ shown, isLineBreak c = false
  eq_nil_iff : shown = [] ↔ isBlank content = true

theorem isPreview_preview (content : List Char) : IsPreview content (preview content) := by
  have hfirst : firstDisplayLine (trim content) <+: trim content := List.takeWhile_prefix _
  have hbreak : ∀ c ∈ firstDisplayLine (trim content), isLineBreak c = false := by
    intro c hc
    simpa using List.mem_takeWhile_imp hc
  have hnil : firstDisplayLine (trim content) = [] ↔ isBlank content = true := by
    refine ⟨fun h => isBlank_of_trim ?_, fun h => by rw [trim_of_isBlank h]; rfl⟩
    cases htrim : trim content with
    | nil => rfl
    | cons c cs =>
        have hvisible : isBlankChar c = false := head_trim content c (by rw [htrim]; rfl)
        rw [htrim, firstDisplayLine, List.takeWhile_eq_nil_iff] at h
        have hc : isLineBreak c = true := by simpa using h (by simp)
        exact absurd (isBlankChar_of_isLineBreak hc) (by simp [hvisible])
  change IsPreview content (cut (firstDisplayLine (trim content)))
  generalize firstDisplayLine (trim content) = first at hfirst hbreak hnil
  unfold cut previewLimit
  split
  · rename_i hlong
    have hlength : (first.take 57).length = 57 := by
      rw [List.length_take]
      omega
    have hne : first ≠ [] := List.ne_nil_of_length_pos (by omega)
    have hstands : first.take 57 <+: trim content := (List.take_prefix 57 first).trans hfirst
    refine ⟨by simp [hlength], .inr ⟨_, rfl, hlength, hstands⟩, ?_, by simp [← hnil, hne]⟩
    intro c hc
    rcases List.mem_append.1 hc with hc | hc
    · exact hbreak c (List.mem_of_mem_take hc)
    · simp only [List.mem_cons, List.not_mem_nil, or_false, or_self] at hc
      rw [hc]
      decide
  · rename_i hshort
    exact ⟨Nat.le_of_not_lt hshort, .inl hfirst, hbreak, hnil⟩

theorem IsPreview.inLine {content shown : List Char} (h : IsPreview content shown) : '\n' ∉ shown :=
  fun hmem => absurd (h.no_break _ hmem) (by decide)

/-! ### Listings with a line looked up -/

/-- The preview, with the first line looked up among the display lines. -/
def preview? (content : List Char) : Option (List Char) :=
  if trim content = [] then some [] else (displayLines (trim content))[0]?.map cut

def blockLine? (b : Block) : Option String :=
  if b.isDirective then some (blockLine b)
  else (preview? b.content.toList).map fun shown => s!"  [{span b}] {b.name}: {String.ofList shown}"

/-- The listing, if every line that is looked up is there. -/
def text? (d : Document) : Option String :=
  (d.blocks.mapM blockLine?).map fun blockLines =>
    "\n".intercalate (s!"Blocks ({d.blocks.length}):" :: blockLines
      ++ if d.problems.isEmpty then [] else s!"Errors ({d.problems.length}):" :: d.problems.map problemLine)

theorem preview?_eq (content : List Char) : preview? content = some (preview content) := by
  unfold preview?
  split
  · rename_i hnil
    rw [preview, hnil]
    rfl
  · rename_i hvisible
    rw [← List.head?_eq_getElem?, head?_displayLines hvisible]
    rfl

theorem blockLine?_eq (b : Block) : blockLine? b = some (blockLine b) := by
  unfold blockLine?
  split
  · rfl
  · rename_i hplain
    rw [preview?_eq, blockLine, if_neg hplain]
    rfl

theorem text?_eq (d : Document) : text? d = some (text d) := by
  have hlines : d.blocks.mapM blockLine? = some (d.blocks.map blockLine) := by
    rw [funext blockLine?_eq]
    exact List.mapM_pure
  rw [text?, hlines]
  rfl

/-! ### Entries -/

theorem inLine_append {s t : String} : '\n' ∉ (s ++ t).toList ↔ '\n' ∉ s.toList ∧ '\n' ∉ t.toList := by
  rw [String.toList_append, List.mem_append, not_or]

theorem inLine_ofList {cs : List Char} (h : '\n' ∉ cs) : '\n' ∉ (String.ofList cs).toList := by
  rwa [String.toList_ofList]

theorem inLine_intercalate {ss : List String} (h : ∀ s ∈ ss, '\n' ∉ s.toList) : '\n' ∉ (" ".intercalate ss).toList := by
  rw [String.toList_intercalate]
  induction ss with
  | nil => exact List.not_mem_nil
  | cons s ss ih =>
      obtain ⟨hs, hss⟩ := List.forall_mem_cons.1 h
      cases ss with
      | nil => simpa using hs
      | cons t ss =>
          rw [List.map_cons, List.map_cons, List.intercalate_cons_cons, List.mem_append, List.mem_append]
          exact not_or.2 ⟨not_or.2 ⟨hs, by decide⟩, ih hss⟩

theorem inLine_nat (n : Nat) : '\n' ∉ (toString n).toList := by
  rw [Nat.toString_eq_repr, Nat.toList_repr]
  intro hmem
  exact absurd (Nat.isDigit_of_mem_toDigits (by decide) (by decide) hmem) (by decide)

theorem inLine_int (n : Int) : '\n' ∉ (toString n).toList := by
  cases n with
  | ofNat n => exact inLine_nat n
  | negSucc n => exact inLine_append.2 ⟨by decide, inLine_nat (n + 1)⟩

theorem inLine_lineText (n : Option Int) : '\n' ∉ (lineText n).toList := by
  cases n with
  | none => decide
  | some n => exact inLine_int n

theorem inLine_span (b : Block) : '\n' ∉ (span b).toList := by
  unfold span
  split
  · exact inLine_nat b.line
  · simp only [inLine_append, and_assoc]
    exact ⟨inLine_nat b.line, by decide, inLine_nat b.endLine⟩

/-- Whatever the values are, they are written with escapes. -/
theorem inLine_valueText (f : Flag) : '\n' ∉ (valueText f).toList :=
  inLine_ofList fun hmem => absurd (Json.isPrintableAscii_of_mem_encodeText hmem) (by decide)

theorem inLine_flagText {f : Flag} (h : '\n' ∉ f.name.toList) : '\n' ∉ (flagText f).toList := by
  unfold flagText
  split
  · exact inLine_valueText f
  · simp only [inLine_append, and_assoc]
    exact ⟨by decide, h, by decide, inLine_valueText f⟩

/-- The names in a block are without line ends. -/
structure HasNamesInLine (b : Block) : Prop where
  name : '\n' ∉ b.name.toList
  flags : ∀ f ∈ b.flags, '\n' ∉ f.name.toList

/-- The texts of a problem are without line ends. -/
structure HasTextsInLine (p : Problem) : Prop where
  code : '\n' ∉ p.code.toList
  message : '\n' ∉ p.message.toList

theorem inLine_blockLine {b : Block} (h : HasNamesInLine b) : '\n' ∉ (blockLine b).toList := by
  have hflags : ∀ text ∈ b.flags.map flagText, '\n' ∉ text.toList := by
    intro text htext
    obtain ⟨f, hf, rfl⟩ := List.mem_map.1 htext
    exact inLine_flagText (h.flags f hf)
  have hshown : '\n' ∉ preview b.content.toList := (isPreview_preview _).inLine
  unfold blockLine
  split
  · refine inLine_ofList fun hmem => absurd ((trimEnd_isPrefix _).subset hmem) ?_
    simp only [inLine_append, and_assoc]
    exact ⟨by decide, inLine_span b, by decide, h.name, by decide, inLine_intercalate hflags⟩
  · simp only [inLine_append, and_assoc]
    exact ⟨by decide, inLine_span b, by decide, h.name, by decide, inLine_ofList hshown⟩

theorem inLine_problemLine {p : Problem} (h : HasTextsInLine p) : '\n' ∉ (problemLine p).toList := by
  have hseverity : '\n' ∉ p.severity.text.toList := by cases p.severity <;> decide
  unfold problemLine
  simp only [inLine_append, and_assoc]
  exact ⟨by decide, inLine_lineText p.line, by decide, hseverity, by decide, h.code, by decide, h.message⟩

/-- If the names and the texts keep to their lines, then so does every entry. -/
theorem inLine_of_mem {d : Document} (hblocks : ∀ b ∈ d.blocks, HasNamesInLine b)
    (hproblems : ∀ p ∈ d.problems, HasTextsInLine p) {line : String} (h : line ∈ lines d) : '\n' ∉ line.toList := by
  rw [lines, List.mem_append, List.mem_cons, List.mem_map] at h
  rcases h with (rfl | ⟨b, hb, rfl⟩) | h
  · simp only [inLine_append, and_assoc]
    exact ⟨by decide, inLine_nat _, by decide⟩
  · exact inLine_blockLine (hblocks b hb)
  · split at h
    · cases h
    · rw [List.mem_cons, List.mem_map] at h
      rcases h with rfl | ⟨p, hp, rfl⟩
      · simp only [inLine_append, and_assoc]
        exact ⟨by decide, inLine_nat _, by decide⟩
      · exact inLine_problemLine (hproblems p hp)

/-- Cut at its line ends, the listing falls into its entries again. -/
theorem splitOn_text {d : Document} (hblocks : ∀ b ∈ d.blocks, HasNamesInLine b)
    (hproblems : ∀ p ∈ d.problems, HasTextsInLine p) :
    (text d).toList.splitOn '\n' = (lines d).map String.toList := by
  rw [text, String.toList_intercalate]
  refine List.splitOn_intercalate '\n' (fun l hl => ?_) (by simp [lines])
  obtain ⟨line, hline, rfl⟩ := List.mem_map.1 hl
  exact inLine_of_mem hblocks hproblems hline

theorem length_lines (d : Document) :
    (lines d).length = 1 + d.blocks.length + if d.problems = [] then 0 else 1 + d.problems.length := by
  rw [lines, List.length_append, List.length_cons, List.length_map, Nat.add_comm d.blocks.length]
  cases d.problems with
  | nil => rfl
  | cons p ps => simp [Nat.add_comm]

theorem getElem?_lines {d : Document} {i : Nat} {b : Block} (h : d.blocks[i]? = some b) :
    (lines d)[1 + i]? = some (blockLine b) := by
  have hi : i < d.blocks.length := (List.getElem?_eq_some_iff.1 h).1
  rw [lines, List.getElem?_append_left (by simp; omega), Nat.add_comm, List.getElem?_cons_succ, List.getElem?_map, h]
  rfl

end Listing

/-! ### Documents -/

theorem Directive.isName_of_read {line : Nat} {first : Line} {rest : List Line} {b : Block}
    (h : (read line first rest).block = some b) : Token.isName b.name.toList = true := by
  obtain ⟨_, _, _, -, hshape⟩ := read_shape h
  exact hshape.header.isName

/-- The name of a flag stands on a line of the document, or is empty. -/
theorem Flag.Located.inLine {ls : List Line} (hls : ∀ line ∈ ls, '\n' ∉ line) {f : Flag} (h : f.Located ls) :
    '\n' ∉ f.name.toList := by
  cases hpositional : f.isPositional with
  | true =>
      have hempty : f.name = "" := by simpa [Flag.isPositional] using hpositional
      rw [hempty]
      decide
  | false =>
      obtain ⟨p, hp⟩ := Option.isSome_iff_exists.1 (h.position_isSome hpositional)
      have hslice := inLine_of_slice? hls (h.name_slice p hp)
      exact fun hmem => hslice (List.mem_cons_of_mem _ (List.mem_cons_of_mem _ hmem))

namespace Listing

theorem hasNamesInLine_of_mem {t : String} {b : Block} (h : b ∈ (Document.parse t).blocks) : HasNamesInLine b := by
  obtain ⟨k, first, rest, hlines, hread⟩ := Document.exists_of_mem_blocks h
  rcases Document.readBlock_kind hread with ⟨-, hdirective⟩ | hplain
  · have hlocated := Directive.located_of_read hlines hdirective
    refine ⟨fun hmem => ?_, fun f hf => (hlocated.flags f hf).inLine fun _ => inLine_of_mem_lines⟩
    exact absurd (Token.noBlank_of_isName (Directive.isName_of_read hdirective) _ hmem) (by decide)
  · refine ⟨?_, by simp [hplain.flags]⟩
    have hnames : ∀ name ∈ Block.plainNames, '\n' ∉ name.toList := by decide
    exact hnames _ hplain.name

theorem hasTextsInLine_of_mem {t : String} {p : Problem} (h : p ∈ (Document.parse t).problems) : HasTextsInLine p := by
  obtain ⟨k, first, rest, hlines, hread⟩ := Document.exists_of_mem_problems h
  have hfirst : '\n' ∉ trim first := by
    have hmem : first ∈ Text.lines t.toList := List.mem_of_mem_drop (hlines ▸ List.mem_cons_self)
    exact fun h => inLine_of_mem_lines hmem (trim_subset first h)
  rcases Document.problem_of_readBlock hread with rfl | rfl
  · have hcode : '\n' ∉ Problem.badDirectiveCode.toList := by decide
    exact ⟨hcode, inLine_append.2 ⟨by decide, inLine_ofList hfirst⟩⟩
  · have hcode : '\n' ∉ Problem.openFenceCode.toList := by decide
    have hmessage : '\n' ∉ "Unclosed code block detected.".toList := by decide
    exact ⟨hcode, hmessage⟩

/-- The entry of a block: the lines that it spans, its name, and behind it its flags or what a preview shows. -/
inductive IsEntry (b : Block) : String → Prop
  | directive {line : String} (hdirective : b.isDirective = true)
      (hfront : (s!"  [{span b}] @{b.name}").toList <+: line.toList) : IsEntry b line
  | plain {shown : List Char} (hplain : b.isDirective = false) (hshown : IsPreview b.content.toList shown) :
      IsEntry b s!"  [{span b}] {b.name}: {String.ofList shown}"

/-- A name has no blank at its end that could be cut off with what is behind it. -/
theorem front_isPrefix {b : Block} (hname : Token.isName b.name.toList = true) (flags : String) :
    (s!"  [{span b}] @{b.name}").toList <+: trimEnd (s!"  [{span b}] @{b.name} {flags}").toList := by
  have hne : b.name.toList ≠ [] := fun hnil => by rw [hnil] at hname; cases hname
  have hfront : (s!"  [{span b}] @{b.name}").toList = (s!"  [{span b}] @").toList ++ b.name.toList :=
    String.toList_append
  have hline : (s!"  [{span b}] @{b.name} {flags}").toList =
      (s!"  [{span b}] @{b.name}").toList ++ (s!" {flags}").toList := by
    simp only [String.toList_append, List.append_assoc]
  rw [hline]
  refine isPrefix_trimEnd ⟨b.name.toList.getLast hne, ?_, Token.noBlank_of_isName hname _ (List.getLast_mem hne)⟩ _
  rw [hfront, List.getLast?_append, List.getLast?_eq_some_getLast hne, Option.some_or]

theorem isEntry_blockLine {t : String} {b : Block} (h : b ∈ (Document.parse t).blocks) : IsEntry b (blockLine b) := by
  unfold blockLine
  split
  · rename_i hdirective
    obtain ⟨k, first, rest, -, hread⟩ := Document.exists_of_mem_blocks h
    rcases Document.readBlock_kind hread with ⟨-, hread⟩ | hplain
    · refine .directive hdirective ?_
      rw [String.toList_ofList]
      exact front_isPrefix (Directive.isName_of_read hread) _
    · simp [Block.isDirective, hplain.name] at hdirective
  · rename_i hplain
    exact .plain (by simpa using hplain) (isPreview_preview _)

/-- The listing of a document comes without a look-up that fails. Cut at its line ends it falls into a heading, an entry
for each block in their order, and another heading with an entry for each problem if there are any. -/
structure IsListed (d : Document) : Prop where
  found : text? d = some (text d)
  split : (text d).toList.splitOn '\n' = (lines d).map String.toList
  length_eq : (lines d).length = 1 + d.blocks.length + if d.problems = [] then 0 else 1 + d.problems.length
  entries : ∀ i b, d.blocks[i]? = some b → ∃ line, (lines d)[1 + i]? = some line ∧ IsEntry b line

/-- **Listings.** The document of any text is listed with one line for each entry. -/
theorem parse_listed (t : String) : IsListed (Document.parse t) where
  found := text?_eq _
  split := splitOn_text (fun _ => hasNamesInLine_of_mem) (fun _ => hasTextsInLine_of_mem)
  length_eq := length_lines _
  entries := fun _ b hb => ⟨blockLine b, getElem?_lines hb, isEntry_blockLine (List.mem_of_getElem? hb)⟩

/-- A break inside a line is a blank to the document, and the end of the preview. -/
example : text (Document.parse "@task --prompt \"a\tb\"\n one\x0btwo \n\n@\n") =
    "Blocks (2):\n  [1] @task --prompt \"a\\tb\"\n  [2-3] plainText: one\nErrors (1):\n" ++
      "  line 4 [critical] INVALID_ANNOTATION: Invalid annotation syntax: @" := by
  decide +kernel

end Listing

end Playbook
