import Playbook.Conversation.Variables
import Playbook.Proofs.Document.Tokens
/-!
# Placeholders in a text

Braces, blanks and the characters of words are told apart by every single character, so a placeholder can be read in one
way only, and none begins inside another one. A text therefore has its placeholders as a row of slots with plain
characters around them, and there is only one such row with no placeholder left in the plain characters. Substitution
puts a value into every slot of this row, and looks at nothing that it has put in.
-/

namespace Playbook

open Text

/-! ### Characters -/

namespace Text

theorem isBlankChar_of_isWordChar {c : Char} (h : isWordChar c = true) : isBlankChar c = false := by
  rw [isWordChar] at h
  split at h
  · exact Token.isBlankChar_of_isNameChar h
  · obtain ⟨⟨first, last⟩, hmem, hrange⟩ := List.any_eq_true.1 h
    have hapart : ∀ range ∈ wordRanges, 0xa0 < range.1 ∧ (range.2 < 0x1680 ∨ 0x1680 < range.1 ∧
        (range.2 < 0x2000 ∨ 0x205f < range.1 ∧ (range.2 < 0x3000 ∨ 0x3000 < range.1))) := by
      decide +kernel
    have hfirst := hapart _ hmem
    simp only [Bool.and_eq_true, decide_eq_true_eq] at hrange hfirst
    simp only [isBlankChar, Bool.or_eq_false_iff, Bool.and_eq_false_iff, decide_eq_false_iff_not, beq_eq_false_iff_ne]
    omega

end Text

namespace CodePoint

variable {p : CodePoint}

theorem is_blank_of_word (h : p.is isWordChar = true) : p.is isBlankChar = false := by
  cases p with
  | char c => exact isBlankChar_of_isWordChar h
  | half i => rfl

theorem ne_of_word (h : p.is isWordChar = true) : p ≠ char '\x7b' ∧ p ≠ char '\x7d' :=
  ⟨by rintro rfl; exact absurd h (by decide), by rintro rfl; exact absurd h (by decide)⟩

theorem ne_of_blank (h : p.is isBlankChar = true) : p ≠ char '\x7b' ∧ p ≠ char '\x7d' :=
  ⟨by rintro rfl; exact absurd h (by decide), by rintro rfl; exact absurd h (by decide)⟩

end CodePoint

open CodePoint (char)

/-! ### Slots -/

/-- A placeholder as it is written: a word between double braces, with the blanks around the word. -/
@[ext]
structure Slot where
  left : WideString
  name : WideString
  right : WideString
  left_isBlank : ∀ c ∈ left, c.is isBlankChar = true
  name_isWord : ∀ c ∈ name, c.is isWordChar = true
  name_ne_nil : name ≠ []
  right_isBlank : ∀ c ∈ right, c.is isBlankChar = true

namespace Slot

variable {s s' : Slot} {cs rest : WideString}

def closing (rest : WideString) : WideString := char '\x7d' :: char '\x7d' :: rest

/-- What follows the opening braces. -/
def inner (s : Slot) (rest : WideString) : WideString := s.left ++ (s.name ++ (s.right ++ closing rest))

def text (s : Slot) : WideString := char '\x7b' :: char '\x7b' :: s.inner []

theorem text_append (s : Slot) (rest : WideString) : s.text ++ rest = char '\x7b' :: char '\x7b' :: s.inner rest := by
  simp [text, inner, closing]

theorem opening_not_mem_inner (s : Slot) : char '\x7b' ∉ s.inner [] := by
  simp only [inner, closing, List.mem_append, List.mem_cons, List.not_mem_nil, or_false, not_or]
  exact ⟨fun h => (CodePoint.ne_of_blank (s.left_isBlank _ h)).1 rfl,
      fun h => (CodePoint.ne_of_word (s.name_isWord _ h)).1 rfl,
    fun h => (CodePoint.ne_of_blank (s.right_isBlank _ h)).1 rfl, by decide, by decide⟩

/-! ### Reading a slot -/

theorem inner_stretch (s : Slot) (rest : WideString) :
    (s.inner rest).takeWhile (·.is isBlankChar) = s.left ∧
      (s.inner rest).dropWhile (·.is isBlankChar) = s.name ++ (s.right ++ closing rest) := by
  refine stretch_append s.left_isBlank fun c hc => ?_
  obtain ⟨d, ds, hname⟩ := List.exists_cons_of_ne_nil s.name_ne_nil
  obtain rfl : d = c := by simpa [hname] using hc
  exact CodePoint.is_blank_of_word (s.name_isWord d (hname ▸ List.mem_cons_self))

theorem name_stretch (s : Slot) (rest : WideString) :
    (s.name ++ (s.right ++ closing rest)).takeWhile (·.is isWordChar) = s.name ∧
      (s.name ++ (s.right ++ closing rest)).dropWhile (·.is isWordChar) = s.right ++ closing rest := by
  refine stretch_append s.name_isWord fun c hc => ?_
  cases hright : s.right with
  | nil =>
      rw [hright] at hc
      cases hc
      decide
  | cons d ds =>
      obtain rfl : d = c := by simpa [hright] using hc
      have hblank := s.right_isBlank d (hright ▸ List.mem_cons_self)
      exact Bool.eq_false_iff.2 fun hword => Bool.false_ne_true ((CodePoint.is_blank_of_word hword).symm.trans hblank)

theorem right_stretch (s : Slot) (rest : WideString) :
    (s.right ++ closing rest).takeWhile (·.is isBlankChar) = s.right ∧
      (s.right ++ closing rest).dropWhile (·.is isBlankChar) = closing rest :=
  stretch_append s.right_isBlank fun c hc => by cases hc; decide

/-- A slot is read as it is written, whatever follows. -/
theorem placeholder?_text (s : Slot) (rest : WideString) :
    Variables.placeholder? (s.text ++ rest) = some ⟨s.name, s.text, rest⟩ := by
  have hsource : (s.text ++ rest).take ((s.text ++ rest).length - rest.length) = s.text := by
    rw [List.length_append, Nat.add_sub_cancel, List.take_left]
  obtain ⟨d, ds, hname⟩ := List.exists_cons_of_ne_nil s.name_ne_nil
  rw [text_append] at hsource ⊢
  rw [Variables.placeholder?]
  simp only [(s.inner_stretch rest).2, (s.name_stretch rest).1, (s.name_stretch rest).2, (s.right_stretch rest).2]
  simp only [hname, closing]
  rw [hsource]

/-- What is read is a slot. -/
theorem exists_of_placeholder? {p : Variables.Placeholder} (h : Variables.placeholder? cs = some p) :
    ∃ s : Slot, s.text ++ p.rest = cs ∧ p = ⟨s.name, s.text, p.rest⟩ := by
  have hslot : ∃ (s : Slot) (rest : WideString), s.text ++ rest = cs := by
    unfold Variables.placeholder? at h
    split at h
    · rename_i after
      simp only at h
      split at h
      · rename_i first others rest hname hclosing
        let s : Slot :=
          { left := after.takeWhile (·.is isBlankChar)
            name := (after.dropWhile (·.is isBlankChar)).takeWhile (·.is isWordChar)
            right := ((after.dropWhile (·.is isBlankChar)).dropWhile (·.is isWordChar)).takeWhile (·.is isBlankChar)
            left_isBlank := fun c hc => List.mem_takeWhile_imp hc
            name_isWord := fun c hc => List.mem_takeWhile_imp hc
            name_ne_nil := by rw [hname]; exact List.cons_ne_nil _ _
            right_isBlank := fun c hc => List.mem_takeWhile_imp hc }
        refine ⟨s, rest, ?_⟩
        rw [text_append, inner]
        have hright : s.right ++ closing rest = (after.dropWhile (·.is isBlankChar)).dropWhile (·.is isWordChar) := by
          rw [closing, ← hclosing]
          exact List.takeWhile_append_dropWhile
        have hleft : s.name ++ (s.right ++ closing rest) = after.dropWhile (·.is isBlankChar) := by
          rw [hright]
          exact List.takeWhile_append_dropWhile
        rw [hleft]
        exact congrArg (char '\x7b' :: char '\x7b' :: ·) List.takeWhile_append_dropWhile
      · cases h
    · cases h
  obtain ⟨s, rest, rfl⟩ := hslot
  rw [placeholder?_text] at h
  cases h
  exact ⟨s, rfl, rfl⟩

theorem text_injective (h : s.text = s'.text) : s = s' := by
  have hinner : s.inner [] = s'.inner [] := (List.cons.inj (List.cons.inj h).2).2
  obtain ⟨hleft, hword⟩ := s.inner_stretch []
  obtain ⟨hleft', hword'⟩ := s'.inner_stretch []
  rw [hinner] at hleft hword
  have hword := hword.symm.trans hword'
  have hname : s.name = s'.name := by
    rw [← (s.name_stretch []).1, hword, (s'.name_stretch []).1]
  have hright : s.right = s'.right := by
    rw [hname] at hword
    rw [← (s.right_stretch []).1, List.append_cancel_left hword, (s'.right_stretch []).1]
  exact Slot.ext (hleft.symm.trans hleft') hname hright

/-- A text begins with one slot at most. -/
theorem eq_of_text_append {rest' : WideString} (h : s.text ++ rest = s'.text ++ rest') : s = s' ∧ rest = rest' := by
  have hread := placeholder?_text s rest
  rw [h, placeholder?_text s' rest', Option.some.injEq, Variables.Placeholder.mk.injEq] at hread
  exact ⟨text_injective hread.2.1.symm, hread.2.2.symm⟩

/-- No slot begins inside another one: there, no brace opens but the second one, which a word follows. -/
theorem not_isPrefix_inside {front back : WideString} (h : s.text = front ++ back) (hfront : front ≠ []) (hback : back ≠ [])
    (rest : WideString) : ¬ s'.text <+: back ++ rest := by
  rintro ⟨more, hmore⟩
  have hinner := s.opening_not_mem_inner
  obtain ⟨c, front, rfl⟩ := List.exists_cons_of_ne_nil hfront
  obtain ⟨d, back, rfl⟩ := List.exists_cons_of_ne_nil hback
  obtain ⟨rfl, hd⟩ : char '\x7b' = d ∧ char '\x7b' :: (s'.inner [] ++ more) = back ++ rest := List.cons.inj hmore
  cases front with
  | nil =>
      have hback : s.inner [] = back := (List.cons.inj (List.cons.inj h).2).2
      cases back with
      | nil => exact List.append_ne_nil_of_right_ne_nil _ (by simp [closing]) hback
      | cons d back =>
          obtain rfl : char '\x7b' = d := (List.cons.inj hd).1
          exact hinner (hback ▸ List.mem_cons_self)
  | cons d front =>
      have hback : s.inner [] = front ++ char '\x7b' :: back := (List.cons.inj (List.cons.inj h).2).2
      exact hinner (hback ▸ List.mem_append_right front List.mem_cons_self)

end Slot

/-! ### Templates -/

/-- A text as a row of slots with the characters in front of them, and the characters behind the last one. -/
inductive Template
  | plain (tail : WideString)
  | slot (gap : WideString) (s : Slot) (rest : Template)

/-- At none of the first characters does a slot begin. -/
def Unslotted (gap rest : WideString) : Prop :=
  ∀ front back, gap = front ++ back → back ≠ [] → ∀ s : Slot, ¬ s.text <+: back ++ rest

namespace Unslotted

variable {c : CodePoint} {gap rest : WideString}

theorem nil (rest : WideString) : Unslotted [] rest :=
  fun _ _ h hback => absurd (List.append_eq_nil_iff.1 h.symm).2 hback

theorem tail (h : Unslotted (c :: gap) rest) : Unslotted gap rest :=
  fun front back hgap => h (c :: front) back (by rw [hgap, List.cons_append])

theorem not_placeholder (h : Unslotted (c :: gap) rest) : Variables.placeholder? (c :: (gap ++ rest)) = none := by
  cases hread : Variables.placeholder? (c :: (gap ++ rest)) with
  | none => rfl
  | some p =>
      obtain ⟨s, hs, -⟩ := Slot.exists_of_placeholder? hread
      exact absurd ⟨p.rest, hs⟩ (h [] (c :: gap) rfl (List.cons_ne_nil _ _) s)

theorem cons (hc : Variables.placeholder? (c :: (gap ++ rest)) = none) (h : Unslotted gap rest) :
    Unslotted (c :: gap) rest := by
  intro front back hgap hback s
  cases front with
  | nil =>
      rintro ⟨more, hmore⟩
      rw [← List.nil_append back, ← hgap, List.cons_append] at hmore
      rw [← hmore, Slot.placeholder?_text] at hc
      cases hc
  | cons d front => exact h front back (List.cons.inj hgap).2 hback s

end Unslotted

namespace Template

/-- The text with something in the place of each slot. -/
def fill (f : Slot → WideString) : Template → WideString
  | plain tail => tail
  | slot gap s rest => gap ++ (f s ++ rest.fill f)

def text (t : Template) : WideString := t.fill Slot.text

/-- No slot begins in the characters around the slots. -/
def IsLeftmost : Template → Prop
  | plain tail => Unslotted tail []
  | slot gap s rest => Unslotted gap (s.text ++ rest.text) ∧ rest.IsLeftmost

/-- The slot is one of the row, with this text in front of it. -/
inductive Has (s : Slot) : WideString → Template → Prop
  | here (gap : WideString) (rest : Template) : Has s gap (slot gap s rest)
  | later {front : WideString} {rest : Template} (gap : WideString) (s' : Slot) (h : Has s front rest) :
      Has s (gap ++ (s'.text ++ front)) (slot gap s' rest)

variable {t t' : Template} {s : Slot} {c : CodePoint} {cs front gap rest : WideString}

theorem text_slot (gap : WideString) (s : Slot) (t : Template) : (slot gap s t).text = gap ++ (s.text ++ t.text) := rfl

theorem Has.text_eq (h : t.Has s front) : ∃ back, t.text = front ++ (s.text ++ back) := by
  induction h with
  | here gap rest => exact ⟨rest.text, rfl⟩
  | later gap s' _ ih =>
      obtain ⟨back, hback⟩ := ih
      exact ⟨back, by rw [text_slot, hback]; simp only [List.append_assoc]⟩

/-- Every slot of the text is one of the row. -/
theorem IsLeftmost.has (ht : t.IsLeftmost) {back : WideString} (h : t.text = front ++ (s.text ++ back)) :
    t.Has s front := by
  induction t generalizing front with
  | plain tail =>
      refine absurd ?_ (ht front (s.text ++ back) h (List.cons_ne_nil _ _) s)
      exact ⟨back ++ [], (List.append_assoc _ _ _).symm⟩
  | slot gap s' rest ih =>
      obtain ⟨hgap, hrest⟩ := ht
      rw [text_slot] at h
      rcases List.append_eq_append_iff.1 h with ⟨behind, rfl, hbehind⟩ | ⟨ahead, rfl, hahead⟩
      · rcases List.append_eq_append_iff.1 hbehind with ⟨more, rfl, hmore⟩ | ⟨ahead, hslot, hahead⟩
        · exact .later gap s' (ih hrest hmore)
        · cases behind with
          | nil =>
              obtain ⟨rfl, -⟩ := Slot.eq_of_text_append hbehind
              rw [List.append_nil]
              exact .here gap rest
          | cons c behind =>
              cases ahead with
              | nil =>
                  rw [List.append_nil] at hslot
                  rw [← hslot, ← List.append_nil s'.text]
                  exact .later gap s' (ih hrest hahead.symm)
              | cons d ahead =>
                  have hinside : ¬ s.text <+: d :: ahead ++ rest.text :=
                    Slot.not_isPrefix_inside hslot (List.cons_ne_nil _ _) (List.cons_ne_nil _ _) rest.text
                  exact absurd ⟨back, hahead⟩ hinside
      · cases ahead with
        | nil =>
            obtain ⟨rfl, -⟩ := Slot.eq_of_text_append hahead
            rw [List.append_nil]
            exact .here front rest
        | cons c ahead =>
            refine absurd ?_ (hgap front (c :: ahead) rfl (List.cons_ne_nil _ _) s)
            exact ⟨back, hahead⟩

/-- A text has one row of slots only. -/
theorem IsLeftmost.unique (ht : t.IsLeftmost) (ht' : t'.IsLeftmost) (h : t.text = t'.text) : t = t' := by
  induction t generalizing t' with
  | plain tail =>
      cases t' with
      | plain tail' => exact congrArg plain h
      | slot gap s rest => cases ht.has h
  | slot gap s rest ih =>
      cases t' with
      | plain tail => cases ht'.has h.symm
      | slot gap' s' rest' =>
          cases ht'.has h.symm with
          | here =>
              have hrest : rest.text = rest'.text := List.append_cancel_left (List.append_cancel_left h)
              rw [ih ht.2 ht'.2 hrest]
          | later =>
              rename_i front hlater
              refine absurd ?_ (ht.1 gap' (s'.text ++ front) rfl (List.cons_ne_nil _ _) s')
              exact ⟨front ++ (s.text ++ rest.text), by simp only [List.append_assoc]⟩

/-! ### Cutting a text -/

/-- A character more in front. -/
def push (c : CodePoint) : Template → Template
  | plain tail => plain (c :: tail)
  | slot gap s rest => slot (c :: gap) s rest

theorem text_push (c : CodePoint) (t : Template) : (t.push c).text = c :: t.text := by cases t <;> rfl

theorem IsLeftmost.push (h : t.IsLeftmost) (hc : Variables.placeholder? (c :: t.text) = none) :
    (t.push c).IsLeftmost := by
  cases t with
  | plain tail =>
      rw [← List.append_nil (plain tail).text] at hc
      exact Unslotted.cons hc h
  | slot gap s rest => exact ⟨Unslotted.cons hc h.1, h.2⟩

theorem exists_isLeftmost (cs : WideString) : ∃ t : Template, t.text = cs ∧ t.IsLeftmost := by
  induction cs using Variables.cut.induct with
  | case1 => exact ⟨plain [], rfl, Unslotted.nil []⟩
  | case2 c cs p hread hlt ih =>
      obtain ⟨t, ht, hleftmost⟩ := ih
      obtain ⟨s, hs, -⟩ := Slot.exists_of_placeholder? hread
      refine ⟨slot [] s t, ?_, Unslotted.nil _, hleftmost⟩
      rw [text_slot, ht, List.nil_append, hs]
  | case3 c cs hread ih =>
      obtain ⟨t, rfl, hleftmost⟩ := ih
      exact ⟨t.push c, text_push c t, hleftmost.push hread⟩

/-! ### Filling the slots -/

/-- What the cut of a text consists of. -/
def pieces : Template → List (CodePoint ⊕ Variables.Placeholder)
  | plain tail => tail.map .inl
  | slot gap s rest => gap.map .inl ++ .inr ⟨s.name, s.text, rest.text⟩ :: rest.pieces

theorem cut_unslotted (h : Unslotted gap cs) : Variables.cut (gap ++ cs) = gap.map .inl ++ Variables.cut cs := by
  induction gap with
  | nil => rfl
  | cons c gap ih =>
      rw [List.cons_append, Variables.cut]
      split
      · rename_i p hread
        rw [h.not_placeholder] at hread
        cases hread
      · rw [ih h.tail, List.map_cons, List.cons_append]

theorem flatMap_inl {f : CodePoint ⊕ Variables.Placeholder → WideString} (h : ∀ c, f (.inl c) = [c]) (cs : WideString) :
    (cs.map .inl).flatMap f = cs := by
  simp only [List.flatMap_map, h, List.flatMap_singleton']

theorem cut_text (s : Slot) (cs : WideString) :
    Variables.cut (s.text ++ cs) = .inr ⟨s.name, s.text, cs⟩ :: Variables.cut cs := by
  have hread := s.placeholder?_text cs
  rw [Slot.text, List.cons_append] at hread ⊢
  rw [Variables.cut]
  split
  · rename_i p hread'
    rw [hread] at hread'
    cases hread'
    rfl
  · rename_i hread'
    rw [hread] at hread'
    cases hread'

theorem IsLeftmost.cut_eq (h : t.IsLeftmost) : Variables.cut t.text = t.pieces := by
  induction t with
  | plain tail =>
      have hcut := cut_unslotted h
      rw [List.append_nil] at hcut
      rw [text, fill, hcut, Variables.cut, List.append_nil, pieces]
  | slot gap s rest ih => rw [text_slot, cut_unslotted h.1, cut_text, ih h.2, pieces]

end Template

/-- What stands for a slot: its value as it is, or nothing, or the slot itself where unknown names are kept. -/
def Variables.standIn (vs : Variables) (keepUnknown : Bool) (s : Slot) : WideString :=
  match vs.get? s.name with
  | some value => value
  | none => if keepUnknown then s.text else []

theorem Template.IsLeftmost.substitute_eq {t : Template} {text : WideString} (h : t.IsLeftmost) (ht : t.text = text)
    (vs : Variables) (keepUnknown : Bool) :
    vs.substitute text keepUnknown = t.fill (vs.standIn keepUnknown) := by
  rw [Variables.substitute, ← ht, h.cut_eq]
  clear ht h
  induction t with
  | plain tail => exact flatMap_inl (fun _ => rfl) tail
  | slot gap s rest ih =>
      rw [pieces, fill, List.flatMap_append, List.flatMap_cons, ih, flatMap_inl fun _ => rfl]
      rfl

/-- With every slot left as it is, so is the text. -/
theorem Template.fill_eq_text {t : Template} {f : Slot → WideString} (h : ∀ s front, t.Has s front → f s = s.text) :
    t.fill f = t.text := by
  induction t with
  | plain tail => rfl
  | slot gap s rest ih =>
      have hrest : rest.fill f = rest.text := ih fun s' front hlater => h s' _ (.later gap s hlater)
      rw [fill, h s gap (.here gap rest), hrest, text_slot]

/-- **Substitution.** Every text is one row of slots, in which all its slots are, wherever in the text they stand. What
comes of the text is this row with every slot filled, so that nothing is changed where no name is known and the unknown
ones are kept. -/
theorem Variables.substitute_filled (vs : Variables) (text : WideString) (keepUnknown : Bool) :
    ∃ t : Template,
      (t.text = text ∧ t.IsLeftmost) ∧
      (∀ t' : Template, t'.text = text → t'.IsLeftmost → t' = t) ∧
      (∀ front s, t.Has s front ↔ ∃ back, text = front ++ (s.text ++ back)) ∧
      vs.substitute text keepUnknown = t.fill (vs.standIn keepUnknown) ∧
      ((∀ front (s : Slot) back, text = front ++ (s.text ++ back) → vs.get? s.name = none) →
        vs.substitute text true = text) := by
  obtain ⟨t, ht, hleftmost⟩ := Template.exists_isLeftmost text
  have hslots : ∀ front s, t.Has s front ↔ ∃ back, text = front ++ (s.text ++ back) := fun front s =>
    ⟨fun h => ht ▸ h.text_eq, fun ⟨back, h⟩ => hleftmost.has (ht.trans h)⟩
  refine ⟨t, ⟨ht, hleftmost⟩, fun t' ht' hleftmost' => hleftmost'.unique hleftmost (ht'.trans ht.symm), hslots,
    hleftmost.substitute_eq ht vs keepUnknown, fun hunknown => ?_⟩
  have hkept : t.fill (vs.standIn true) = t.text := Template.fill_eq_text fun s front h => by
    obtain ⟨back, hback⟩ := (hslots front s).1 h
    rw [standIn, hunknown front s back hback]
    rfl
  rw [hleftmost.substitute_eq ht, hkept, ht]

-- A third brace stays in front of the slot, and what a value says is not read again.
example : Variables.substitute [("goal", "\x7b\x7bname\x7d\x7d")] "\x7b\x7b\x7b goal \x7d\x7d \x7b\x7bname\x7d\x7d" true =
    "\x7b\x7b\x7bname\x7d\x7d \x7b\x7bname\x7d\x7d" := by
  decide +kernel

end Playbook
