import Playbook.Proofs.Document.Readings
import Playbook.Proofs.Text.LineEnds
/-!
# Line ends of documents

A line may end with a line feed alone or with a carriage return in front of it, and the last line of a text may lack its
end. The lines are the same, and so is everything that is read from them, columns and fenced code included. A text that
has nothing but line ends has lines, but it is blank with them and without them, so that it is never read at all.
-/

namespace Playbook

open Text

/-! ### Texts with returns -/

namespace Text

/-- A carriage return in front of every line feed. -/
def withReturns (cs : List Char) : List Char := cs.flatMap fun c => if c = '\n' then ['\r', '\n'] else [c]

theorem withReturns_feed (cs : List Char) : withReturns ('\n' :: cs) = '\r' :: '\n' :: withReturns cs := rfl

theorem withReturns_cons {c : Char} (hc : c ≠ '\n') (cs : List Char) : withReturns (c :: cs) = c :: withReturns cs := by
  rw [withReturns, List.flatMap_cons, if_neg hc]
  rfl

theorem lines_withReturns {cs : List Char} (h : '\r' ∉ cs) : lines (withReturns cs) = lines cs := by
  induction cs with
  | nil => rfl
  | cons c cs ih =>
      obtain ⟨hreturn, hcs⟩ := not_or.1 (List.mem_cons.not.1 h)
      by_cases hc : c = '\n'
      · subst hc
        rw [withReturns_feed, lines_return_feed, lines_feed, ih hcs]
      · rw [withReturns_cons hc, lines_cons hc (Ne.symm hreturn), lines_cons hc (Ne.symm hreturn), ih hcs]

theorem isBlank_withReturns (cs : List Char) : isBlank (withReturns cs) = isBlank cs := by
  unfold isBlank
  induction cs with
  | nil => rfl
  | cons c cs ih =>
      by_cases hc : c = '\n'
      · have hfeed : isBlankChar '\n' = true := by decide
        have hreturn : isBlankChar '\r' = true := by decide
        rw [hc, withReturns_feed, List.all_cons, List.all_cons, List.all_cons, hfeed, hreturn, ih]
        rfl
      · rw [withReturns_cons hc, List.all_cons, List.all_cons, ih]

/-! ### The last line -/

/-- The line feed that ends the last line opens no other one. -/
theorem rawLines_concat_feed {cs : List Char} (hne : cs ≠ []) (hlast : cs.getLast? ≠ some '\n') :
    rawLines (cs ++ ['\n']) = rawLines cs := by
  induction cs with
  | nil => exact absurd rfl hne
  | cons c cs ih =>
      cases cs with
      | nil =>
          have hc : c ≠ '\n' := fun hc => hlast (by rw [hc]; rfl)
          exact (rawLines_cons hc ['\n']).trans (rawLines_cons hc []).symm
      | cons d cs =>
          rw [List.getLast?_cons_cons] at hlast
          have hrest := ih (List.cons_ne_nil d cs) hlast
          by_cases hc : c = '\n'
          · rw [List.cons_append, rawLines, rawLines, if_pos hc, if_pos hc, hrest]
          · rw [List.cons_append, rawLines_cons hc, rawLines_cons hc, hrest]

theorem lines_concat_feed {cs : List Char} (hne : cs ≠ []) (hlast : cs.getLast? ≠ some '\n') :
    lines (cs ++ ['\n']) = lines cs := by
  rw [lines, rawLines_concat_feed hne hlast, lines]

theorem blank_concat_feed (text : String) : blank (text ++ "\n") = blank text := by
  have hfeed : isBlankChar '\n' = true := by decide
  simp [blank, isBlank, hfeed]

end Text

/-! ### Documents -/

namespace Document

/-- **Line ends.** A text without carriage returns is read as it is read with one in front of every line feed, and a text
whose last line has no end as it is read with one. -/
theorem parse_lineEnds (text : String) :
    ('\r' ∉ text.toList → parse (String.ofList (withReturns text.toList)) = parse text) ∧
    (text.toList.getLast? ≠ some '\n' → parse (text ++ "\n") = parse text) := by
  refine ⟨fun hreturn => ?_, fun hlast => ?_⟩
  · apply parse_congr
    · rw [blank, String.toList_ofList, isBlank_withReturns, blank]
    · rw [String.toList_ofList, lines_withReturns hreturn]
  · have hblank := blank_concat_feed text
    cases hvisible : blank text with
    | true =>
        rw [parse, hblank, hvisible, if_pos rfl, parse, hvisible, if_pos rfl]
    | false =>
        have hne : text.toList ≠ [] := by
          intro hnil
          rw [blank, hnil] at hvisible
          cases hvisible
        apply parse_congr hblank
        rw [String.toList_append]
        exact lines_concat_feed hne hlast

/-- Code with a blank line in it, a comment and a directive on two lines each, and no end of the last line. -/
theorem parse_lineEnds_notes :
    let text := "note\n\n\x60\x60\x60sh\nls \n\n\x60\x60\x60\n<!-- a\nb -->\n@task\n  --prompt \"a b\""
    ('\r' ∉ text.toList ∧ parse (String.ofList (withReturns text.toList)) = parse text) ∧
      text.toList.getLast? ≠ some '\n' ∧ parse (text ++ "\n") = parse text := by
  intro text
  have hreturn : '\r' ∉ text.toList := by decide
  have hlast : text.toList.getLast? ≠ some '\n' := by decide
  exact ⟨⟨hreturn, (parse_lineEnds text).1 hreturn⟩, hlast, (parse_lineEnds text).2 hlast⟩

end Document

end Playbook
