import Playbook.Settings.Basic
/-!
# Checking settings

Settings come as values by name. What values a field takes is known to a library; fields that are not given have their
standard value, and names that are no field do not matter. All faults are reported, in the order of the fields.
-/

namespace Playbook

/-- A value as a source of settings gives it. -/
inductive Setting where
  | null
  | bool (b : Bool)
  | int (n : Int)
  | float (x : Float)
  | text (s : WideString)
  | bytes (b : Text.Bytes)
  | other

/-! ### Faults -/

inductive SettingFault where
  | notText
  | notUnicode
  | emptyText
  | notOneOf (choices : List String)
  | notInteger
  | unreadableInteger
  | fractional
  | tooLong
  | notNumber
  | unreadableNumber
  | notFinite
  | notAboveZero
  | belowOne
  | aboveTen
  | notPath
deriving Repr, DecidableEq

namespace SettingFault

/-- Quoted and separated by commas, the last one by a word. -/
def listing (choices : List String) : String :=
  let shown := choices.map fun c => "'" ++ c ++ "'"
  match shown.reverse with
  | last :: before :: rest => ", ".intercalate (rest.reverse ++ [before]) ++ " or " ++ last
  | _ => "".intercalate shown

def message : SettingFault → String
  | notText => "Input should be a valid string"
  | notUnicode => "Input should be a valid string, unable to parse raw data as a unicode string"
  | emptyText => "String should have at least 1 character"
  | notOneOf choices =>
    let list := listing choices
    s!"Input should be {list}"
  | notInteger => "Input should be a valid integer"
  | unreadableInteger => "Input should be a valid integer, unable to parse string as an integer"
  | fractional => "Input should be a valid integer, got a number with a fractional part"
  | tooLong => "Unable to parse input string as an integer, exceeded maximum size"
  | notNumber => "Input should be a valid number"
  | unreadableNumber => "Input should be a valid number, unable to parse string as a number"
  | notFinite => "Input should be a finite number"
  | notAboveZero => "Input should be greater than 0"
  | belowOne => "Input should be greater than or equal to 1"
  | aboveTen => "Input should be less than or equal to 10"
  | notPath => "Input is not a valid path for <class 'pathlib.Path'>"

end SettingFault

structure FieldFault where
  field : String
  fault : SettingFault
deriving Repr, DecidableEq

def FieldFault.message (f : FieldFault) : String := s!"{f.field}: {f.fault.message}"

namespace Settings

/-- A library that reads values as those of fields. -/
structure Readers where
  read : (f : Field) → Setting → Except SettingFault f.Value
  /-- The name of a context has at least one character. -/
  context_ne : ∀ {v text}, read .context v = .ok text → text ≠ ""
  /-- A text is taken for a name as it is. -/
  context_text : ∀ {s : WideString} {text : String}, read .context (.text s) = .ok text → s = text

/-- What the field comes to with the given values: its standard value, if none is given for it. -/
def Field.result (readers : Readers) (given : List (WideString × Setting)) (f : Field) : Except FieldFault f.Value :=
  match given.lookup (f.name : WideString) with
  | none => .ok (f.of standard)
  | some v => (readers.read f v).mapError (⟨f.name, ·⟩)

def faultOf {α : Type} : Except FieldFault α → List FieldFault
  | .ok _ => []
  | .error f => [f]

/-- Settings of which each field is what it came to. -/
def assemble (result : (f : Field) → Except FieldFault f.Value) : Except FieldFault Settings := do
  return ⟨← result .provider, ← result .model, ← result .timeout, ← result .retries, ← result .url,
    ← result .workspace, ← result .context, ← result .execute, ← result .level⟩

def check (readers : Readers) (given : List (WideString × Setting)) : Except (List FieldFault) Settings :=
  (assemble (·.result readers given)).mapError fun _ => Field.all.flatMap fun f => faultOf (f.result readers given)

end Settings

end Playbook
