import Playbook.Yaml.Source
/-!
# YAML tags

What kind of value a node is, and what kind an unquoted text without a tag is taken for: numbers in several
bases, truth values, moments of time, and otherwise a text.
-/

namespace Playbook.Yaml

inductive Tag where
  | null
  | bool
  | int
  | float
  | text
  | moment
  | bytes
  | list
  | pairs
  | orderedPairs
  | set
  | map
  | merge
  | value
  | unknown (uri : String)
deriving Repr, DecidableEq

namespace Tag

def standardUri : String := "tag:yaml.org,2002:"

def names : List (String × Tag) := [
  ("null", .null), ("bool", .bool), ("int", .int), ("float", .float), ("str", .text), ("timestamp", .moment),
  ("binary", .bytes), ("seq", .list), ("pairs", .pairs), ("omap", .orderedPairs), ("set", .set), ("map", .map),
  ("merge", .merge), ("value", .value)]

def ofUri (uri : String) : Tag :=
  (names.find? fun (name, _) => standardUri ++ name = uri).elim (.unknown uri) (·.2)

/-! ### Words -/

def nullWords : List String := ["", "~", "null", "Null", "NULL"]

def trueWords : List String := ["yes", "Yes", "YES", "true", "True", "TRUE", "on", "On", "ON"]

def falseWords : List String := ["no", "No", "NO", "false", "False", "FALSE", "off", "Off", "OFF"]

def specialFloats : List String := [".inf", ".Inf", ".INF"]

def nanWords : List String := [".nan", ".NaN", ".NAN"]

/-! ### Numbers

Low lines may stand anywhere behind the first digit. -/

def dropSign : List Char → List Char
  | '-' :: cs => cs
  | '+' :: cs => cs
  | cs => cs

def isDigitOrLine (c : Char) : Bool := c.isDigit || c == '_'

def isHexDigit (c : Char) : Bool := c.isDigit || ('a' ≤ c && c ≤ 'f') || ('A' ≤ c && c ≤ 'F')

/-- One part or more to base sixty, each with a colon in front; `after` has to hold of what follows. -/
def sixties (after : List Char → Bool) : List Char → Bool
  | ':' :: a :: b :: cs =>
    if b.isDigit then '0' ≤ a && a ≤ '5' && (sixties after cs || after cs)
    else a.isDigit && (sixties after (b :: cs) || after (b :: cs))
  | [':', a] => a.isDigit && after []
  | _ => false

def isInt (cs : List Char) : Bool :=
  match dropSign cs with
  | ['0'] => true
  | '0' :: 'b' :: bits => !bits.isEmpty && bits.all fun c => c == '0' || c == '1' || c == '_'
  | '0' :: 'x' :: digits => !digits.isEmpty && digits.all fun c => isHexDigit c || c == '_'
  | '0' :: digits => digits.all fun c => ('0' ≤ c && c ≤ '7') || c == '_'
  | c :: cs =>
    c.isDigit && (cs.all isDigitOrLine || sixties List.isEmpty (cs.dropWhile isDigitOrLine))
  | [] => false

/-- Nothing, or an exponent that has a sign. -/
def isPower : List Char → Bool
  | [] => true
  | e :: sign :: digits => (e == 'e' || e == 'E') && (sign == '+' || sign == '-') && !digits.isEmpty && digits.all Char.isDigit
  | _ => false

/-- A point with digits behind it, and `after` of what follows. -/
def isPlaces (after : List Char → Bool) : List Char → Bool
  | '.' :: cs => after (cs.dropWhile isDigitOrLine)
  | _ => false

def isFloat (cs : List Char) : Bool :=
  let word := String.ofList cs
  let unsigned := dropSign cs
  nanWords.contains word || specialFloats.contains (String.ofList unsigned)
    || (match cs with
      | '.' :: c :: rest => c.isDigit && isPower (rest.dropWhile isDigitOrLine)
      | _ => false)
    || (match unsigned with
      | c :: rest =>
        let rest := rest.dropWhile isDigitOrLine
        c.isDigit && (isPlaces isPower rest || sixties (isPlaces List.isEmpty) rest)
      | [] => false)

/-! ### Moments -/

/-- Between `least` and `most` digits, as many as there are. -/
def someDigits (least most : Nat) (cs : List Char) : Option (List Char × List Char) :=
  let ds := (cs.take most).takeWhile Char.isDigit
  if ds.length < least then none else some (ds, cs.drop ds.length)

def isSpace (c : Char) : Bool := c == ' ' || c == '\t'

/-- A moment as it is written; the parts of the clock are missing where only a day is given. -/
structure MomentText where
  year : List Char
  month : List Char
  day : List Char
  clock : Option (List Char × List Char × List Char)
  /-- The distance from the prime meridian, with its sign. -/
  zone : Option (Bool × List Char × List Char)
deriving Repr, DecidableEq

def after? (c : Char) : List Char → Option (List Char)
  | d :: cs => if d = c then some cs else none
  | [] => none

def zone? (cs : List Char) : Option (Option (Bool × List Char × List Char)) :=
  match cs.dropWhile isSpace with
  | [] => if cs.isEmpty then some none else none
  | ['Z'] => some none
  | sign :: cs =>
    if sign = '+' ∨ sign = '-' then do
      let (hours, cs) ← someDigits 1 2 cs
      if cs.isEmpty then return some (sign == '-', hours, [])
      let (minutes, cs) ← someDigits 2 2 (← after? ':' cs)
      if cs.isEmpty then return some (sign == '-', hours, minutes) else none
    else none

def moment? (cs : List Char) : Option MomentText := do
  let (year, cs) ← someDigits 4 4 cs
  let (month, cs) ← someDigits 1 2 (← after? '-' cs)
  let (day, cs) ← someDigits 1 2 (← after? '-' cs)
  if cs.isEmpty then return ⟨year, month, day, none, none⟩
  let cs ← match cs with
    | 'T' :: cs => some cs
    | 't' :: cs => some cs
    | c :: cs => if isSpace c then some (cs.dropWhile isSpace) else none
    | [] => none
  let (hour, cs) ← someDigits 1 2 cs
  let (minute, cs) ← someDigits 2 2 (← after? ':' cs)
  let (second, cs) ← someDigits 2 2 (← after? ':' cs)
  let cs := match cs with
    | '.' :: cs => cs.dropWhile Char.isDigit
    | cs => cs
  return ⟨year, month, day, some (hour, minute, second), ← zone? cs⟩

/-- A day alone needs two digits for month and day. -/
def isMoment (cs : List Char) : Bool :=
  match moment? cs with
  | some m => m.clock.isSome || (m.month.length == 2 && m.day.length == 2)
  | none => false

/-! ### All together -/

/-- A line feed at the very end does not count. -/
def withoutLastBreak (cs : List Char) : List Char :=
  if 1 < cs.length ∧ cs.getLast? = some '\n' then cs.dropLast else cs

/-- Words that are taken for something that no value is. -/
def strayWords : List String := ["!", "&", "*"]

def ofText (text : String) : Tag :=
  let cs := withoutLastBreak text.toList
  let s := String.ofList cs
  if nullWords.contains s then .null
  else if trueWords.contains s ∨ falseWords.contains s then .bool
  else if isFloat cs then .float
  else if isInt cs then .int
  else if s = "<<" then .merge
  else if isMoment cs then .moment
  else if s = "=" then .value
  else if strayWords.contains s then .unknown (standardUri ++ "yaml")
  else .text

end Tag

end Playbook.Yaml
