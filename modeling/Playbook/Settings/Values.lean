import Playbook.Number.Numeral
import Playbook.Settings.Check
import Playbook.Text.Utf8
/-!
# Values of settings

How values are read as those of fields: which kinds of values each field takes, within which bounds.
-/

namespace Playbook

namespace Setting

/-! ### Texts and choices -/

/-- The characters of a text, which may have no halves of pairs in it. -/
def charsOf (s : WideString) : Except SettingFault (List Char) := (s.mapM CodePoint.char?).elim (.error .notUnicode) .ok

/-- The text that the bytes are in UTF-8, or the fault for bytes that are none. -/
def textOfBytes (fault : SettingFault) (b : Text.Bytes) : Except SettingFault (List Char) :=
  (Text.decodeUtf8 b).mapError fun _ => fault

def asText : Setting → Except SettingFault String
  | text s => (charsOf s).map String.ofList
  | bytes b => (textOfBytes .notUnicode b).map String.ofList
  | _ => .error .notText

def asFilledText (v : Setting) : Except SettingFault String := do
  let s ← v.asText
  if s.isEmpty then .error .emptyText else .ok s

def asChoice {α : Type} (read : String → Option α) (choices : List String) : Setting → Except SettingFault α
  | text s => ((charsOf s).toOption.bind fun cs => read (String.ofList cs)).elim (.error (.notOneOf choices)) .ok
  | _ => .error (.notOneOf choices)

def asPath : Setting → Except SettingFault (Option Path)
  | null => .ok none
  | text s => if (charsOf s).isOk then .ok (some (.ofString s)) else .error .notPath
  | _ => .error .notPath

/-! ### Whole numbers

A text may be a whole number too. -/

/-- The longest text that is read as a whole number. -/
def integerLimit : Nat := 4300

/-- A whole number in its shortest form: a minus sign at most, and no zero in front of other digits. -/
def shortestInteger (cs : List Char) : Except SettingFault Int :=
  let (negative, cs) : Bool × List Char := match cs with
    | '-' :: cs => (true, cs)
    | cs => (false, cs)
  let digits := cs.takeWhile Char.isDigit
  let startsWithZero := digits.head? = some '0'
  if ¬ startsWithZero ∧ integerLimit < digits.length + (if negative then 1 else 0) then .error .tooLong
  else if digits.isEmpty ∨ digits.length < cs.length ∨ (startsWithZero ∧ 1 < digits.length) then .error .unreadableInteger
  else .ok (Number.signed negative (Number.natOfDigits digits))

/-- What follows zeros and low lines. One character stays where nothing or a point follows. -/
def skipZeros (last : Char) : List Char → Option (List Char)
  | [] => some [last]
  | c :: cs =>
    if c = '0' ∨ c = '_' then skipZeros c cs
    else if ('1' ≤ c ∧ c ≤ '9') ∨ c = '-' then some (c :: cs)
    else if c = '.' then some (last :: c :: cs)
    else none

def dropZeros : List Char → Option (List Char)
  | [] => none
  | c :: cs =>
    if c = '0' then skipZeros c cs
    else if ('1' ≤ c ∧ c ≤ '9') ∨ c = '-' then some (c :: cs)
    else none

/-- A tail of zeros behind a point does not count. -/
def dropPlaces (cs : List Char) : List Char :=
  let whole := cs.takeWhile (· ≠ '.')
  let places := cs.drop (whole.length + 1)
  if !places.isEmpty ∧ places.all (· = '0') then whole else cs

/-- The text in its shortest form: without blanks around it, a plus sign, zeros in front, and single low lines. -/
def shortened? (cs : List Char) : Option (List Char) := do
  let cs ← match Number.trim cs with
    | '+' :: '-' :: _ => none
    | '+' :: cs => some cs
    | cs => some cs
  let cs := dropPlaces (← dropZeros cs)
  return (Number.dropLowLines? cs).getD cs

def integerOfText (cs : List Char) : Except SettingFault Int :=
  match shortestInteger cs, shortened? cs with
  | .error .unreadableInteger, some cs => shortestInteger cs
  | result, _ => result

/-- The whole numbers that a double holds are far larger than what is of use here. -/
def integerOfFloat (x : Float) : Except SettingFault Int :=
  if x.isNaN ∨ x.isInf then .error .notFinite
  else if x.floor != x then .error .fractional
  else if x.abs < 9223372036854775807.0 then
    .ok (Number.signed (x < 0.0) x.abs.toUInt64.toNat)
  else .error .tooLong

def asInteger : Setting → Except SettingFault Int
  | bool b => .ok (if b then 1 else 0)
  | int n => .ok n
  | float x => integerOfFloat x
  | text s => do integerOfText (← charsOf s)
  | bytes b => do integerOfText (← textOfBytes .unreadableInteger b)
  | _ => .error .notInteger

def asRetries (v : Setting) : Except SettingFault Nat := do
  let n ← v.asInteger
  if 10 < n then .error .aboveTen else if n < 1 then .error .belowOne else .ok n.toNat

/-! ### Numbers -/

/-- Blanks around a number do not count, and neither do single low lines, but not both at once. -/
def numberOfText (cs : List Char) : Except SettingFault Float :=
  match (Number.floatOrSpecial? (Number.trim cs)).or ((Number.dropLowLines? cs).bind Number.floatOrSpecial?) with
  | some x => .ok x
  | none => .error .unreadableNumber

def asNumber : Setting → Except SettingFault Float
  | bool b => .ok (if b then 1.0 else 0.0)
  | int n => (Number.floatOfInt? n).elim (.error .notNumber) .ok
  | float x => .ok x
  | text s => do numberOfText (← charsOf s)
  | bytes b => do numberOfText (← textOfBytes .unreadableNumber b)
  | _ => .error .notNumber

/-- What is no number at all is not above zero either. -/
def asTimeout (v : Setting) : Except SettingFault Float := do
  let x ← v.asNumber
  if x > 0.0 then .ok x else .error .notAboveZero

def asOptionalTimeout : Setting → Except SettingFault (Option Float)
  | null => .ok none
  | v => v.asTimeout.map some

end Setting

/-! ### All fields -/

namespace Settings

def readField : (f : Field) → Setting → Except SettingFault f.Value
  | .provider => Setting.asChoice Provider.ofText? (Provider.all.map (·.text))
  | .model => Setting.asText
  | .timeout => Setting.asTimeout
  | .retries => Setting.asRetries
  | .url => Setting.asText
  | .workspace => Setting.asPath
  | .context => Setting.asFilledText
  | .execute => Setting.asOptionalTimeout
  | .level => Setting.asChoice LogLevel.ofText? (LogLevel.all.map (·.text))

end Settings

end Playbook
