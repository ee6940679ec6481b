import Playbook.Settings.Load
import Playbook.Settings.Values
import Playbook.Yaml.Content
/-!
# Settings files in YAML

Settings files are YAML. A scalar that cannot be read as what it looks like is an error of its own.
-/

namespace Playbook.Settings

/-- What a fault in the text is: some of them are told by what the scalar could not be read as. -/
def storedFault : Yaml.Fault → StoredFault
  | .malformed => .malformed
  | .noSuchCharacter => .foreign .value "chr() arg not in range(0x110000)"
  | .farTooLarge => .foreign .overflow "Python int too large to convert to C int"
  | .notInteger text base =>
    let shown := String.ofList ((Text.quote text).take 200)
    .foreign .value s!"invalid literal for int() with base {base}: {shown}"
  | .tooManyDigits digits => .foreign .value (Number.tooLongText digits)
  | .notNumber text => .foreign .value s!"could not convert string to float: {Text.quoted text}"
  | .tooLargeForFloat => .foreign .overflow "int too large to convert to float"
  | .noNumber => .foreign .index "string index out of range"
  | .notBoolean text => .foreign .key (Text.quoted text)
  | .notMoment => .foreign .attribute "'NoneType' object has no attribute 'groupdict'"
  | .momentOfMapping => .foreign .type "expected string or bytes-like object, got 'list'"
  | .noSuchMoment reason => .foreign .value reason

def settingOf : Yaml.Value → Setting
  | .null => .null
  | .bool b => .bool b
  | .int n => .int n
  | .float x => .float x
  | .text s => .text s
  | .bytes b => .bytes b
  | _ => .other

def storedOf (content : Yaml.Document.Content) : Stored :=
  match content.value with
  | .null => .nothing
  | .map => .mapping (content.entries.map fun (key, v) => (settingOf key, settingOf v))
  | _ => .other

/-! ### The library -/

theorem asFilledText_eq_ok {v : Setting} {text : String} (h : v.asFilledText = .ok text) :
    v.asText = .ok text ∧ text ≠ "" := by
  unfold Setting.asFilledText at h
  cases htext : v.asText with
  | error e =>
      rw [htext] at h
      cases h
  | ok t =>
      rw [htext] at h
      change (if t.isEmpty then _ else _) = _ at h
      split at h
      · cases h
      · rename_i hfilled
        cases h
        refine ⟨rfl, ?_⟩
        rintro rfl
        exact hfilled rfl

theorem eq_of_charsOf {s : WideString} {cs : List Char} (h : Setting.charsOf s = .ok cs) : s = .ofChars cs := by
  unfold Setting.charsOf at h
  cases hchars : s.mapM CodePoint.char? with
  | none =>
      rw [hchars] at h
      cases h
  | some ds =>
      rw [hchars] at h
      cases h
      induction s generalizing cs with
      | nil =>
          cases hchars
          rfl
      | cons p s ih =>
          cases p with
          | half i => cases hchars
          | char c =>
              cases hrest : s.mapM CodePoint.char? with
              | none => simp [List.mapM_cons, CodePoint.char?, hrest] at hchars
              | some rest =>
                  simp only [List.mapM_cons, CodePoint.char?, hrest, Option.pure_def, Option.bind_eq_bind,
                    Option.bind_some, Option.some.injEq] at hchars
                  subst hchars
                  rw [WideString.ofChars_cons, ← ih hrest]

theorem eq_of_asText {s : WideString} {text : String} (h : (Setting.text s).asText = .ok text) : s = text := by
  change (Setting.charsOf s).map String.ofList = .ok text at h
  cases hchars : Setting.charsOf s with
  | error e =>
      rw [hchars] at h
      cases h
  | ok cs =>
      rw [hchars] at h
      cases h
      rw [WideString.ofString_ofList]
      exact eq_of_charsOf hchars

def library : Library where
  read := readField
  context_ne h := (asFilledText_eq_ok h).2
  context_text h := eq_of_asText (asFilledText_eq_ok h).1
  parse cs := ((Yaml.read cs).map storedOf).mapError storedFault

end Playbook.Settings
