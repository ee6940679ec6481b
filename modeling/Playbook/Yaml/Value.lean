import Playbook.Number.Numeral
import Playbook.Text.Base64
import Playbook.Text.Lower
import Playbook.Text.Wide
import Playbook.Yaml.Resolve
/-!
# YAML values

What a node stands for, and how the texts of scalars are read as values of each kind. The parts of a collection are
not kept here.
-/

namespace Playbook.Yaml

inductive Value where
  | null
  | bool (b : Bool)
  | int (n : Int)
  | float (x : Float)
  | text (s : WideString)
  | moment
  | bytes (b : Text.Bytes)
  | list
  | set
  | map

namespace Value

/-- Whether the value can be a key. -/
def isKey : Value → Bool
  | list | set | map => false
  | _ => true

/-! ### Numbers

Low lines do not count. Colons stand between the parts of a number to base sixty. -/

def wholeNumber (base : Nat) (cs : List Char) : Except Fault Int :=
  (Number.integer base cs).mapError fun
    | .unreadable => .notInteger (String.ofList cs) base
    | .tooLong digits => .tooManyDigits digits

def intOf (s : String) : Except Fault Int := do
  let cs := s.toList.filter (· ≠ '_')
  if cs.isEmpty then throw .noNumber
  let (negative, cs) := Number.takeSign cs
  let n ← match cs with
    | ['0'] => pure 0
    | '0' :: 'b' :: cs => wholeNumber 2 cs
    | '0' :: 'x' :: cs => wholeNumber 16 cs
    | '0' :: _ => wholeNumber 8 cs
    | [] => throw .noNumber
    | _ =>
      if cs.contains ':' then do
        let parts ← (cs.splitOn ':').mapM (wholeNumber 10)
        pure (parts.foldl (fun n part => n * 60 + part) 0)
      else wholeNumber 10 cs
  return if negative then -n else n

def decimal (cs : List Char) : Except Fault Float :=
  (Number.floatNumeral? cs).elim (.error (.notNumber (String.ofList cs))) .ok

/-- The sum of the parts, the smallest one first; `base` is what the next part counts. -/
def sixtiethsOf (sum : Float) (base : Nat) : List Float → Except Fault Float
  | [] => .ok sum
  | part :: parts =>
    match Number.floatOfInt? base with
    | some factor => sixtiethsOf (sum + part * factor) (base * 60) parts
    | none => .error .tooLargeForFloat

def floatOf (s : String) : Except Fault Float := do
  let cs := Text.lower (s.toList.filter (· ≠ '_'))
  if cs.isEmpty then throw .noNumber
  let (negative, cs) := Number.takeSign cs
  let x ←
    if cs = ".inf".toList then pure (1.0 / 0.0)
    else if cs = ".nan".toList then return 0.0 / 0.0
    else if cs.contains ':' then do sixtiethsOf 0.0 1 (← (cs.splitOn ':').mapM decimal).reverse
    else decimal cs
  return if negative then -x else x

/-! ### Truth values -/

def boolOf (s : String) : Except Fault Bool :=
  let word := String.ofList (Text.lower s.toList)
  if ["yes", "true", "on"].contains word then .ok true
  else if ["no", "false", "off"].contains word then .ok false
  else .error (.notBoolean word)

/-! ### Moments -/

def daysOf (year month : Nat) : Nat :=
  if month = 2 then if year % 4 = 0 ∧ (year % 100 ≠ 0 ∨ year % 400 = 0) then 29 else 28
  else if [4, 6, 9, 11].contains month then 30
  else 31

def requireThat (holds : Bool) (reason : String) : Except Fault Unit :=
  if holds then .ok () else .error (.noSuchMoment reason)

/-- The distance as days and seconds, of which the seconds are not negative. -/
def distanceText (seconds : Int) : String :=
  let days := seconds.fdiv 86400
  let rest := seconds.fmod 86400
  let parts := (if days = 0 then [] else [s!"days={days}"]) ++ (if rest = 0 then [] else [s!"seconds={rest}"])
  let list := if parts.isEmpty then "0" else ", ".intercalate parts
  s!"datetime.timedelta({list})"

def checkZone (zone : Bool × List Char × List Char) : Except Fault Unit :=
  let (negative, hours, minutes) := zone
  let seconds := Number.natOfDigits hours * 3600 + Number.natOfDigits minutes * 60
  let shown := distanceText (Number.signed negative seconds)
  requireThat (seconds < 86400)
    s!"offset must be a timedelta strictly between -timedelta(hours=24) and timedelta(hours=24), not {shown}."

/-- The day has to be in the calendar, and the time on the clock. -/
def checkMoment (m : Tag.MomentText) : Except Fault Unit := do
  if let some zone := m.zone then checkZone zone
  let year := Number.natOfDigits m.year
  let month := Number.natOfDigits m.month
  let day := Number.natOfDigits m.day
  requireThat (1 ≤ year) s!"year {year} is out of range"
  requireThat (1 ≤ month && month ≤ 12) "month must be in 1..12"
  requireThat (1 ≤ day && day ≤ daysOf year month) "day is out of range for month"
  if let some (hour, minute, second) := m.clock then
    requireThat (Number.natOfDigits hour < 24) "hour must be in 0..23"
    requireThat (Number.natOfDigits minute < 60) "minute must be in 0..59"
    requireThat (Number.natOfDigits second < 60) "second must be in 0..59"

/-- A line feed at the very end does not count. -/
def momentOf (s : String) : Except Fault Value :=
  match Tag.moment? (Tag.withoutLastBreak s.toList) with
  | some m => do
    checkMoment m
    return moment
  | none => .error .notMoment

/-! ### Bytes -/

/-- The text has to be ASCII. -/
def bytesOf (s : String) : Except Fault Value :=
  let cs := s.toList
  match if cs.all (·.toNat < 0x80) then Text.Base64.decode cs else none with
  | some b => .ok (bytes b)
  | none => .error .malformed

end Value

end Playbook.Yaml
