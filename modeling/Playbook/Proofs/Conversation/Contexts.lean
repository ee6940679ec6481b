import Playbook.Conversation.Context
import Playbook.Proofs.Document.Entries
/-!
# Conversations only grow

Selecting a conversation says nothing in any, and what is recorded goes to the end of the selected one. So whoever
only selects leaves every message where it is.
-/

namespace Playbook.Contexts

variable {c c' c'' : Contexts} {name : WideString}

/-- The messages of a conversation; one that is not there has none. -/
def messagesIn (c : Contexts) (name : WideString) : List Message := (c.find? name).getD []

/-- The selected conversation is there. -/
def HasSelected (c : Contexts) : Prop := (c.find? c.selected).isSome = true

/-! ### Recording -/

theorem find?_extend (c : Contexts) (added : List Message) (name : WideString) :
    (c.extend added).find? name = (c.find? name).map fun old => if name = c.selected then old ++ added else old := by
  have hvalues : (fun (n, old) => if n = c.selected then (n, old ++ added) else (n, old)) =
      fun ((n, old) : WideString × List Message) => (n, if n = c.selected then old ++ added else old) := by
    funext ⟨n, old⟩
    by_cases hselected : n = c.selected
    · simp only [if_pos hselected]
    · simp only [if_neg hselected]
  rw [find?, extend, hvalues]
  exact lookup_map_value (fun n old => if n = c.selected then old ++ added else old) c.conversations name

theorem messagesIn_extend (h : c.HasSelected) (added : List Message) (name : WideString) :
    (c.extend added).messagesIn name = c.messagesIn name ++ if c.selected = name then added else [] := by
  rw [messagesIn, find?_extend, messagesIn]
  by_cases hname : c.selected = name
  · subst hname
    obtain ⟨old, hold⟩ := Option.isSome_iff_exists.1 h
    simp [hold]
  · rw [if_neg hname, List.append_nil]
    simp only [Ne.symm hname, if_false]
    cases c.find? name <;> rfl

theorem HasSelected.extend (h : c.HasSelected) (added : List Message) : (c.extend added).HasSelected := by
  unfold HasSelected at *
  change ((c.extend added).find? c.selected).isSome = true
  rw [find?_extend, Option.isSome_map]
  exact h

theorem names_extend (c : Contexts) (added : List Message) : (c.extend added).names = c.names := by
  simp only [names, extend, List.map_map]
  refine List.map_congr_left fun p _ => ?_
  simp only [Function.comp_apply]
  split <;> rfl

/-! ### Selecting -/

/-- What selecting conversations, one after the other, can lead to. -/
inductive Reselected (c : Contexts) : Contexts → Prop
  | refl : Reselected c c
  | select {c' c'' : Contexts} (h : Reselected c c') {name : WideString} (hselect : c'.select name = .ok c'') :
      Reselected c c''

theorem Reselected.trans (h : Reselected c c') (h' : Reselected c' c'') : Reselected c c'' := by
  induction h' with
  | refl => exact h
  | select _ hselect ih => exact ih.select hselect

/-- A conversation that is selected was there, or is a new one behind the others. -/
theorem select_eq_ok (h : c.select name = .ok c') :
    (c.find? (name.strip)).isSome = true ∧ c' = { c with selected := name.strip } ∨
      c.find? (name.strip) = none ∧
        c' = { c with conversations := c.conversations ++ [(name.strip, [])], selected := name.strip } := by
  unfold select at h
  simp only at h
  split at h
  · cases h
  split at h
  · rename_i hthere
    cases h
    exact .inl ⟨hthere, rfl⟩
  · rename_i hthere
    cases h
    exact .inr ⟨by simpa using hthere, rfl⟩

theorem find?_append (c : Contexts) (new name selected : WideString) :
    ({ c with conversations := c.conversations ++ [(new, [])], selected := selected } : Contexts).find? name =
      (c.find? name).or (if name = new then some [] else none) := by
  unfold find?
  rw [List.lookup_append]
  congr 1
  by_cases hname : name = new
  · simp [hname]
  · simp only [List.lookup_cons, List.lookup_nil, beq_eq_false_iff_ne.2 hname, if_neg hname]

/-- Selecting says nothing. -/
theorem messagesIn_select (h : c.select name = .ok c') (other : WideString) : c'.messagesIn other = c.messagesIn other := by
  rcases select_eq_ok h with ⟨-, rfl⟩ | ⟨hnone, rfl⟩
  · rfl
  · rw [messagesIn, find?_append, messagesIn]
    by_cases hother : other = name.strip
    · subst hother
      simp [hnone]
    · simp [hother]

theorem hasSelected_select (h : c.select name = .ok c') : c'.HasSelected := by
  rcases select_eq_ok h with ⟨hthere, rfl⟩ | ⟨hnone, rfl⟩
  · exact hthere
  · rw [HasSelected, find?_append, hnone]
    simp

theorem names_select (h : c.select name = .ok c') : c.names <+: c'.names := by
  rcases select_eq_ok h with ⟨-, rfl⟩ | ⟨-, rfl⟩
  · exact List.prefix_refl _
  · unfold names
    rw [List.map_append]
    exact List.prefix_append _ _

theorem Reselected.messagesIn_eq (h : Reselected c c') (name : WideString) : c'.messagesIn name = c.messagesIn name := by
  induction h with
  | refl => rfl
  | select _ hselect ih => exact (messagesIn_select hselect name).trans ih

theorem Reselected.hasSelected (h : Reselected c c') (hc : c.HasSelected) : c'.HasSelected := by
  induction h with
  | refl => exact hc
  | select _ hselect ih => exact hasSelected_select hselect

theorem Reselected.names_isPrefix (h : Reselected c c') : c.names <+: c'.names := by
  induction h with
  | refl => exact List.prefix_refl _
  | select _ hselect ih => exact ih.trans (names_select hselect)

/-! ### Messages that come -/

/-- Messages came to the selected conversation, behind what had been said there; the others are as they were. -/
structure Gains (c : Contexts) (added : List Message) (c' : Contexts) : Prop where
  names : c.names <+: c'.names
  hasSelected : c'.HasSelected
  messages : ∀ name, c'.messagesIn name = c.messagesIn name ++ if c.selected = name then added else []

theorem gains_extend (h : c.HasSelected) (added : List Message) : c.Gains added (c.extend added) where
  names := (names_extend c added).symm ▸ List.prefix_refl _
  hasSelected := h.extend added
  messages := messagesIn_extend h added

theorem Reselected.gains (h : Reselected c c') (hc : c.HasSelected) : c.Gains [] c' where
  names := h.names_isPrefix
  hasSelected := h.hasSelected hc
  messages name := by
    rw [h.messagesIn_eq name]
    split
    · exact (List.append_nil _).symm
    · exact (List.append_nil _).symm

/-- In the contexts of a new session nothing has been said. -/
theorem new_eq_ok {home : WideString} (h : new home = .ok c) : c.HasSelected ∧ ∀ name, c.messagesIn name = [] :=
  ⟨hasSelected_select h, fun name => messagesIn_select h name⟩

end Playbook.Contexts
