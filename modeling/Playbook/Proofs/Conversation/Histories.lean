import Playbook.Proofs.Conversation.Contexts
import Playbook.Proofs.Document.Entries
import Playbook.Proofs.Text.Wide
import Playbook.Text.Json
/-!
# What a history leaves in the contexts

Contexts are asked to select names, to record messages and to start anew, in any order, and some of what they are asked
is turned down. What they hold in the end can be read off the requests alone: the names that were selected, each in the
place where it was selected first, and for every message the name that was selected when it came.
-/

namespace Playbook

/-! ### Requests -/

/-- What contexts can be asked. A name may be any value; one that is no text is a blank name. -/
inductive ContextRequest where
  | select (name : Json)
  | append (m : Message)
  | add (role content : WideString)
  | extend (ms : List Message)
  | clear

namespace ContextRequest

/-- The name that is selected, if any is. -/
def chosen? : ContextRequest → Option WideString
  | select name => if name.text.strip = [] then none else some (name.text.strip)
  | append _ | add .. | extend _ | clear => none

/-- The messages that are recorded. -/
def said : ContextRequest → List Message
  | append m => [m]
  | add role content => (Role.ofText? role).toList.map (⟨·, content⟩)
  | extend ms => ms
  | select _ | clear => []

/-- Why the request is turned down, if it is. -/
def refusal? : ContextRequest → Option Failure
  | select name => if name.text.strip = [] then some .blankContextName else none
  | add role _ => if (Role.ofText? role).isNone then some (.unknownRole role) else none
  | append _ | extend _ | clear => none

def isClear : ContextRequest → Bool
  | clear => true
  | select _ | append _ | add .. | extend _ => false

theorem said_of_chosen {r : ContextRequest} {name : WideString} (h : r.chosen? = some name) : r.said = [] := by
  cases r with
  | select _ => rfl
  | append _ | add _ _ | extend _ | clear => cases h

theorem chosen_select {raw : Json} {name : WideString} :
    (select raw).chosen? = some name ↔ raw.text.strip = name ∧ name ≠ [] := by
  rw [chosen?]
  split
  · simp_all
  · simp only [Option.some.injEq]
    exact ⟨fun h => ⟨h, h ▸ by assumption⟩, fun h => h.1⟩

theorem chosen_isStripped {r : ContextRequest} {name : WideString} (h : r.chosen? = some name) :
    name ≠ [] ∧ name.strip = name := by
  cases r with
  | select raw =>
      obtain ⟨rfl, hne⟩ := chosen_select.1 h
      exact ⟨hne, WideString.strip_strip _⟩
  | append _ | add _ _ | extend _ | clear => cases h

end ContextRequest

/-- The requests after the last one to start anew. -/
def sinceClear (history : List ContextRequest) : List ContextRequest := history.rtakeWhile fun r => !r.isClear

/-- The names that are selected, the home conversation first. -/
def selections (home : WideString) (history : List ContextRequest) : List WideString :=
  home.strip :: history.filterMap (·.chosen?)

/-- Each message that is recorded, with the name that is selected by then. -/
def recordings (selected : WideString) : List ContextRequest → List (WideString × Message)
  | [] => []
  | r :: rest => r.said.map (selected, ·) ++ recordings (r.chosen?.getD selected) rest

/-- The messages that are recorded while the name is selected. -/
def messagesFor (home name : WideString) (history : List ContextRequest) : List Message :=
  ((recordings (home.strip) history).filter (·.1 = name)).map (·.2)

section Histories

variable {home : WideString} {history : List ContextRequest} {r : ContextRequest}

theorem selections_concat : selections home (history ++ [r]) = selections home history ++ r.chosen?.toList := by
  rw [selections, List.filterMap_append, ← List.cons_append, selections]
  cases h : r.chosen? <;> simp [h]

theorem recordings_concat {selected last : WideString}
    (h : (selected :: history.filterMap (·.chosen?)).getLast? = some last) :
    recordings selected (history ++ [r]) = recordings selected history ++ r.said.map (last, ·) := by
  induction history generalizing selected with
  | nil =>
      cases h
      simp [recordings]
  | cons first rest ih =>
      have hlast : (first.chosen?.getD selected :: rest.filterMap (·.chosen?)).getLast? = some last := by
        cases hfirst : first.chosen? with
        | none => simpa [hfirst] using h
        | some name => simpa [hfirst, List.getLast?_cons_cons] using h
      rw [List.cons_append, recordings, ih hlast, recordings, List.append_assoc]

theorem messagesFor_concat {last : WideString} (h : (selections home history).getLast? = some last) (name : WideString) :
    messagesFor home name (history ++ [r]) = messagesFor home name history ++ if last = name then r.said else [] := by
  rw [messagesFor, recordings_concat h, List.filter_append, List.map_append, messagesFor]
  congr 1
  by_cases hname : last = name
  · simp [hname, List.filter_map, Function.comp_def]
  · simp [hname, List.filter_map, Function.comp_def]

theorem sinceClear_concat : sinceClear (history ++ [r]) = if r.isClear then [] else sinceClear history ++ [r] := by
  rw [sinceClear, List.rtakeWhile_concat, sinceClear]
  cases r.isClear <;> rfl

end Histories

/-! ### Contexts after requests -/

namespace Contexts

def answer (c : Contexts) : ContextRequest → Except Failure Contexts
  | .select name => c.select name.text
  | .append m => .ok (c.append m)
  | .add role content => c.add role content
  | .extend ms => .ok (c.extend ms)
  | .clear => c.clear

/-- A request that is turned down leaves the contexts as they are. -/
def next (c : Contexts) (r : ContextRequest) : Contexts := (c.answer r).toOption.getD c

def after (c : Contexts) (history : List ContextRequest) : Contexts := history.foldl next c

variable {c c' : Contexts} {home : WideString} {history : List ContextRequest} {r : ContextRequest}

theorem after_concat (c : Contexts) (history : List ContextRequest) (r : ContextRequest) :
    c.after (history ++ [r]) = (c.after history).next r := by
  rw [after, List.foldl_append, after]
  rfl

theorem extend_nil (c : Contexts) : c.extend [] = c := by
  have hsame (p : WideString × List Message) : (if p.1 = c.selected then (p.1, p.2 ++ []) else (p.1, p.2)) = p := by simp
  exact congrArg (fun conversations => { c with conversations }) (List.map_id'' hsame c.conversations)

theorem mem_names (c : Contexts) (name : WideString) : name ∈ c.names ↔ (c.find? name).isSome = true :=
  mem_names_iff c.conversations name

theorem messagesIn_of_mem (h : c.names.Nodup) {name : WideString} {ms : List Message}
    (hmem : (name, ms) ∈ c.conversations) :
    c.messagesIn name = ms := by
  rw [messagesIn, find?, lookup_of_mem h hmem, Option.getD_some]

theorem add_eq (c : Contexts) (name content : WideString) :
    c.add name content = match Role.ofText? name with
      | some role => .ok (c.append ⟨role, content⟩)
      | none => .error (.unknownRole name) := by
  rw [add, Message.parse, Role.parse]
  cases Role.ofText? name <;> rfl

theorem strip_ne_of_select {name : WideString} (h : c.select name = .ok c') : name.strip ≠ [] := by
  intro hblank
  rw [select] at h
  simp only [List.isEmpty_iff.2 hblank, if_true] at h
  cases h

/-- A name that is not blank is selected. -/
theorem next_of_chosen {name : WideString} (h : r.chosen? = some name) :
    ∃ c', c.select name = .ok c' ∧ c.answer r = .ok c' ∧ c'.selected = name := by
  obtain ⟨hne, hstrip⟩ := ContextRequest.chosen_isStripped h
  cases r with
  | select raw =>
      have hname := (ContextRequest.chosen_select.1 h).1
      have hsame : c.select raw.text = c.select name := by
        rw [select, select, hname, hstrip]
      have hvisible : (name.strip).isEmpty = false := by
        rw [hstrip]
        exact Bool.eq_false_iff.2 fun hempty => hne (List.isEmpty_iff.1 hempty)
      cases hselect : c.select name with
      | error e =>
          unfold select at hselect
          simp only [hvisible, Bool.false_eq_true, if_false] at hselect
          split at hselect <;> cases hselect
      | ok c' =>
          refine ⟨c', rfl, hsame.trans hselect, ?_⟩
          rcases select_eq_ok hselect with ⟨-, rfl⟩ | ⟨-, rfl⟩
          · exact hstrip
          · exact hstrip
  | append _ | add _ _ | extend _ | clear => cases h

/-- Where no name is selected, the messages are recorded; there are none if the request is turned down. -/
theorem next_of_not_chosen (h : r.chosen? = none) (hclear : r.isClear = false) : c.next r = c.extend r.said := by
  cases r with
  | select raw =>
      have hblank : (raw.text.strip).isEmpty = true := by
        rw [ContextRequest.chosen?] at h
        split at h
        · exact List.isEmpty_iff.2 (by assumption)
        · cases h
      have hselect : c.select raw.text = .error .blankContextName := by
        rw [select]
        simp only [hblank, if_true]
      rw [next, answer, hselect]
      exact (extend_nil c).symm
  | append m => rfl
  | add name content =>
      rw [next, answer, add_eq, ContextRequest.said]
      cases Role.ofText? name with
      | none => exact (extend_nil c).symm
      | some role => rfl
  | extend ms => rfl
  | clear => cases hclear

/-! ### What is left -/

/-- The contexts hold what the history says, since they were made or last started anew. -/
structure Recounts (c : Contexts) (home : WideString) (history : List ContextRequest) : Prop where
  home_eq : c.home = home
  names : c.names = (selections home history).eraseDups
  selected : (selections home history).getLast? = some c.selected
  messages : ∀ name, c.messagesIn name = messagesFor home name history

theorem Recounts.nodup (h : c.Recounts home history) : c.names.Nodup := h.names ▸ nodup_eraseDups _

theorem Recounts.hasSelected (h : c.Recounts home history) : c.HasSelected := by
  rw [HasSelected, ← mem_names, h.names, List.mem_eraseDups]
  exact List.mem_of_getLast? h.selected

theorem new_recounts (h : new home = .ok c) : c.Recounts home [] := by
  rcases select_eq_ok h with ⟨hthere, -⟩ | ⟨-, rfl⟩
  · cases hthere
  · exact ⟨rfl, by simp [selections, Contexts.names, List.eraseDups_cons], rfl, (new_eq_ok h).2⟩

theorem Recounts.select {name : WideString} (h : c.Recounts home history) (hr : r.chosen? = some name)
    (hselect : c.select name = .ok c') (hselected : c'.selected = name) : c'.Recounts home (history ++ [r]) := by
  have hselections : selections home (history ++ [r]) = selections home history ++ [name] := by
    rw [selections_concat, hr, Option.toList_some]
  have hstrip := (ContextRequest.chosen_isStripped hr).2
  refine ⟨?_, ?_, by rw [hselections, List.getLast?_concat, hselected], fun other => ?_⟩
  · rcases select_eq_ok hselect with ⟨-, rfl⟩ | ⟨-, rfl⟩
    · exact h.home_eq
    · exact h.home_eq
  · have hmem : name ∈ selections home history ↔ (c.find? name).isSome = true := by
      rw [← mem_names, h.names, List.mem_eraseDups]
    rw [hselections, eraseDups_concat, ← h.names]
    rcases select_eq_ok hselect with ⟨hthere, rfl⟩ | ⟨hnone, rfl⟩
    · rw [hstrip] at hthere
      rw [if_pos (hmem.2 hthere)]
      rfl
    · rw [hstrip] at hnone
      rw [if_neg (by simp [hmem, hnone]), Contexts.names, List.map_append, hstrip]
      rfl
  · rw [messagesIn_select hselect, h.messages, messagesFor_concat h.selected, ContextRequest.said_of_chosen hr]
    simp

theorem Recounts.extend (h : c.Recounts home history) (hr : r.chosen? = none) :
    (c.extend r.said).Recounts home (history ++ [r]) := by
  have hselections : selections home (history ++ [r]) = selections home history := by
    rw [selections_concat, hr, Option.toList_none, List.append_nil]
  refine ⟨h.home_eq, ?_, hselections ▸ h.selected, fun name => ?_⟩
  · rw [names_extend, hselections, h.names]
  · rw [messagesIn_extend h.hasSelected, h.messages, messagesFor_concat h.selected]

/-- One request more. -/
theorem Recounts.next (h : c.Recounts home history) (hr : r.isClear = false) :
    (c.next r).Recounts home (history ++ [r]) := by
  cases hchosen : r.chosen? with
  | none =>
      rw [next_of_not_chosen hchosen hr]
      exact h.extend hchosen
  | some name =>
      obtain ⟨c', hselect, hanswer, hselected⟩ := next_of_chosen (c := c) hchosen
      have hnext : c.next r = c' := by
        rw [Contexts.next, hanswer]
        rfl
      rw [hnext]
      exact h.select hchosen hselect hselected

/-- Contexts that start anew are as they were made. -/
theorem Recounts.clear {fresh : Contexts} (h : c.Recounts home history) (hnew : new home = .ok fresh) :
    c.clear = .ok fresh := by
  rw [Contexts.clear, h.home_eq, hnew]

theorem after_recounts (h : new home = .ok c) (history : List ContextRequest) :
    (c.after history).Recounts home (sinceClear history) := by
  induction history using List.reverseRecOn with
  | nil => exact new_recounts h
  | append_singleton history r ih =>
      rw [after_concat, sinceClear_concat]
      cases hr : r.isClear with
      | false => exact ih.next hr
      | true =>
          have hclear : r = .clear := by
            cases r with
            | clear => rfl
            | select _ | append _ | add _ _ | extend _ => cases hr
          rw [hclear, Contexts.next, answer, ih.clear h]
          exact new_recounts h

end Contexts

end Playbook
