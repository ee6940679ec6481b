import Playbook.Failure
import Playbook.Text.Json
import Playbook.Text.Word
/-!
# Variables

Texts by name, and putting them into the placeholders of another text. A placeholder is a word between
double braces, blanks around the word allowed.
-/

namespace Playbook

abbrev Variables := List (WideString × WideString)

namespace Variables

open Text

def get? (vs : Variables) (name : WideString) : Option WideString := vs.lookup name

def set (vs : Variables) (name value : WideString) : Variables := insertValue name value vs

/-- Only a text can be stored. -/
def setValue (vs : Variables) (name : WideString) : Json → Except Failure Variables
  | .str value => .ok (vs.set name value)
  | value => .error (.variableNotText value.kind)

def delete (vs : Variables) (name : WideString) : Variables := vs.filter (·.1 ≠ name)

/-! ### Placeholders -/

open CodePoint (char)

structure Placeholder where
  name : WideString
  /-- The placeholder as it is written. -/
  source : WideString
  rest : WideString

/-- The placeholder at the very beginning of a text. -/
def placeholder? (s : WideString) : Option Placeholder :=
  match s with
  | char '\x7b' :: char '\x7b' :: inner =>
    let word := inner.dropWhile (·.is isBlankChar)
    let name := word.takeWhile (·.is isWordChar)
    match name, (word.dropWhile (·.is isWordChar)).dropWhile (·.is isBlankChar) with
    | _ :: _, char '\x7d' :: char '\x7d' :: rest => some ⟨name, s.take (s.length - rest.length), rest⟩
    | _, _ => none
  | _ => none

theorem length_rest_lt {s : WideString} {p : Placeholder} (h : placeholder? s = some p) : p.rest.length < s.length := by
  unfold placeholder? at h
  split at h
  · rename_i inner
    have drop_le (f : CodePoint → Bool) (l : WideString) : (l.dropWhile f).length ≤ l.length :=
      (List.dropWhile_sublist f).length_le
    simp only at h
    split at h
    · rename_i rest _ hrest
      have h1 := drop_le (·.is isBlankChar) inner
      have h2 := drop_le (·.is isWordChar) (inner.dropWhile (·.is isBlankChar))
      have h3 := drop_le (·.is isBlankChar) ((inner.dropWhile (·.is isBlankChar)).dropWhile (·.is isWordChar))
      have h4 := congrArg List.length hrest
      simp only [Option.some.injEq] at h
      subst h
      simp only [List.length_cons] at *
      omega
    · cases h
  · cases h

/-- A text cut into placeholders and the code points between them. -/
def cut : WideString → List (CodePoint ⊕ Placeholder)
  | [] => []
  | c :: s =>
    match h : placeholder? (c :: s) with
    | some p =>
      have := length_rest_lt h
      .inr p :: cut p.rest
    | none => .inl c :: cut s
termination_by s => s.length
decreasing_by
  · exact this
  · exact Nat.lt_succ_self s.length

/-- What stands in the place of a placeholder. -/
def valueOf (vs : Variables) (keepUnknown : Bool) (p : Placeholder) : WideString :=
  match vs.get? p.name with
  | some value => value
  | none => if keepUnknown then p.source else []

def substitute (vs : Variables) (text : WideString) (keepUnknown : Bool) : WideString :=
  (cut text).flatMap fun
    | .inl c => [c]
    | .inr p => vs.valueOf keepUnknown p

end Variables

end Playbook
