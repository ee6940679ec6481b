import Playbook.Number.Decimals
import Playbook.Text.Blank
import Playbook.Text.Digit
/-!
# Numerals

Numbers as people write them: with blanks around them and digits of any script.
-/

namespace Playbook.Number

/-! ### What does not count -/

/-- The four separators of the ASCII control range are no blanks around a number. -/
def isMargin (c : Char) : Bool := Text.isBlankChar c && !(0x1c ≤ c.toNat && c.toNat ≤ 0x1f)

def trim (cs : List Char) : List Char := ((cs.dropWhile isMargin).reverse.dropWhile isMargin).reverse

def hasDoubleLine : List Char → Bool
  | '_' :: '_' :: _ => true
  | _ :: cs => hasDoubleLine cs
  | [] => false

/-- The text without its low lines, unless one is first, last, or next to another one. -/
def dropLowLines? (cs : List Char) : Option (List Char) :=
  if cs.head? = some '_' ∨ cs.getLast? = some '_' ∨ hasDoubleLine cs then none else some (cs.filter (· ≠ '_'))

/-! ### Whole numbers -/

inductive IntegerFault where
  | unreadable
  | tooLong (digits : Nat)
deriving Repr, DecidableEq

/-- The most decimal digits that are read. -/
def digitLimit : Nat := 4300

/-- What is said of a whole number with more digits. -/
def tooLongText (digits : Nat) : String :=
  s!"Exceeds the limit ({digitLimit} digits) for integer string conversion: value has {digits} digits; use sys.set_int_max_str_digits() to increase the limit"

def digitIn? (base : Nat) (c : Char) : Option Nat := (hexValue? c).filter (· < base)

/-- The letter that announces a base behind a zero. -/
def baseLetter? : Nat → Option Char
  | 2 => some 'b'
  | 8 => some 'o'
  | 16 => some 'x'
  | _ => none

/-- Drops the announcement of the base, and a low line behind it. -/
def dropBase (base : Nat) : List Char → List Char
  | '0' :: c :: cs =>
    if some c.toLower = baseLetter? base then if cs.head? = some '_' then cs.drop 1 else cs else '0' :: c :: cs
  | cs => cs

/-- A whole number of a base up to sixteen, with a sign and single low lines between its digits. -/
def integer (base : Nat) (cs : List Char) : Except IntegerFault Int :=
  let (negative, cs) := takeSign ((trim cs).map Text.plainDigit)
  let cs := dropBase base cs
  let digits := ((cs.takeWhile fun c => c == '_' || (digitIn? base c).isSome).filter (· ≠ '_')).length
  if base = 10 ∧ digitLimit < digits then .error (.tooLong digits)
  else match (dropLowLines? cs).bind (·.mapM (digitIn? base)) with
    | some (d :: ds) => .ok (signed negative ((d :: ds).foldl (fun n d => n * base + d) 0))
    | _ => .error .unreadable

/-! ### Floating-point numbers -/

/-- Words for numbers that have no digits. -/
def special? (cs : List Char) : Option Float :=
  let (negative, cs) := takeSign cs
  let word := String.ofList (cs.map Char.toLower)
  if word = "inf" ∨ word = "infinity" then some (if negative then -(1.0 / 0.0) else 1.0 / 0.0)
  else if word = "nan" then some (0.0 / 0.0)
  else none

def floatOrSpecial? (cs : List Char) : Option Float := (float? cs).or (special? cs)

def floatNumeral? (cs : List Char) : Option Float := floatOrSpecial? ((trim cs).map Text.plainDigit)

/-- A whole number from here on rounds to no double. -/
def floatBound : Nat := Nat.pow 2 1024 - Nat.pow 2 970

/-- The nearest double, if there is one. -/
def floatOfInt? (n : Int) : Option Float :=
  if floatBound ≤ n.natAbs then none
  else
    let x := Float.ofScientific n.natAbs false 0
    some (if n < 0 then -x else x)

end Playbook.Number
