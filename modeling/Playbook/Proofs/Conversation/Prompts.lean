import Playbook.Proofs.Conversation.Placeholders
import Playbook.Proofs.Text.Wide
/-!
# What comes of a prompt

A prompt is sent with values in its slots and with the characters around them as they are. It is blank just if all of this
is blank. A text without braces holds no slot, so that a placeholder between two such texts is the only one, if what
stands in it is a word with blanks around it.
-/

namespace Playbook

open Text

/-! ### Blank prompts -/

namespace Template

open WideString (isBlank isBlank_append)

/-- A filled row is blank if the characters around the slots are and everything that was put in. -/
theorem isBlank_fill (t : Template) (f : Slot → WideString) :
    isBlank (t.fill f) = true ↔
      isBlank (t.fill fun _ => []) = true ∧ ∀ front s, t.Has s front → isBlank (f s) = true := by
  induction t with
  | plain tail => exact ⟨fun h => ⟨h, nofun⟩, fun h => h.1⟩
  | slot gap s rest ih =>
      rw [fill, fill, List.nil_append, isBlank_append, isBlank_append, isBlank_append, ih]
      constructor
      · rintro ⟨hgap, hslot, hrest, hlater⟩
        refine ⟨⟨hgap, hrest⟩, fun front s' hs' => ?_⟩
        cases hs' with
        | here => exact hslot
        | later _ _ h => exact hlater _ _ h
      · rintro ⟨⟨hgap, hrest⟩, hslots⟩
        exact ⟨hgap, hslots _ s (.here gap rest), hrest, fun front s' h => hslots _ s' (.later gap s h)⟩

end Template

namespace Variables

/-- What is blank is the text around the slots and every value that is known. -/
theorem blank_substitute_iff (vs : Variables) {t : Template} {text : WideString} (ht : t.text = text)
    (hleftmost : t.IsLeftmost) :
    (vs.substitute text false).isBlank = true ↔ (t.fill fun _ => []).isBlank = true ∧
      ∀ front s value, t.Has s front → vs.get? s.name = some value → value.isBlank = true := by
  rw [hleftmost.substitute_eq ht, t.isBlank_fill]
  refine and_congr_right fun _ => ⟨fun h front s value hs hvalue => ?_, fun h front s hs => ?_⟩
  · have hblank := h front s hs
    rw [standIn, hvalue] at hblank
    exact hblank
  · rw [standIn]
    cases hvalue : vs.get? s.name with
    | none => rfl
    | some value => exact h front s value hs hvalue

end Variables

/-! ### One placeholder -/

/-- One character at least, and all of them such as stand in words. -/
def IsWord (s : WideString) : Prop := s ≠ [] ∧ ∀ p ∈ s, p.is isWordChar = true

instance (s : WideString) : Decidable (IsWord s) :=
  decidable_of_iff (s ≠ [] ∧ s.all (·.is isWordChar) = true) (by rw [IsWord, List.all_eq_true])

open CodePoint (char)

theorem Unslotted.of_braceless {gap : WideString} (h : char '\x7b' ∉ gap) (rest : WideString) : Unslotted gap rest := by
  rintro front back rfl hback s ⟨more, hmore⟩
  obtain ⟨c, back, rfl⟩ := List.exists_cons_of_ne_nil hback
  obtain rfl : char '\x7b' = c := (List.cons.inj hmore).1
  exact h (List.mem_append_right front List.mem_cons_self)

/-- Between texts without braces the placeholder of a word is the only one. -/
theorem Variables.substitute_between (vs : Variables) (keepUnknown : Bool) {before name after value : WideString}
    (hbefore : char '\x7b' ∉ before) (hafter : char '\x7b' ∉ after) (hword : IsWord name.strip)
    (hvalue : vs.get? name.strip = some value) :
    vs.substitute (before ++ "\x7b\x7b" ++ name ++ "\x7d\x7d" ++ after) keepUnknown = before ++ value ++ after := by
  obtain ⟨left, right, hleft, hright, hname⟩ := name.exists_margins
  let s : Slot := ⟨left, name.strip, right, hleft, hword.2, hword.1, hright⟩
  let t : Template := .slot before s (.plain after)
  have ht : t.text = before ++ "\x7b\x7b" ++ name ++ "\x7d\x7d" ++ after := by
    have hopening : WideString.ofString "\x7b\x7b" = [char '\x7b', char '\x7b'] := rfl
    have hclosing : WideString.ofString "\x7d\x7d" = [char '\x7d', char '\x7d'] := rfl
    rw [Template.text_slot, Slot.text, Slot.inner, hopening, hclosing]
    conv => rhs; rw [hname]
    simp [s, Slot.closing, Template.text, Template.fill]
  have hleftmost : t.IsLeftmost := ⟨.of_braceless hbefore _, .of_braceless hafter _⟩
  have hslot : vs.standIn keepUnknown s = value := by rw [standIn, hvalue]
  rw [hleftmost.substitute_eq ht]
  simp only [t, Template.fill, hslot, List.append_assoc]

end Playbook
