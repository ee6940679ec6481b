/-!
# Numbers in decimal digits

Numbers as they are written: digits, a point, a power of ten.
-/

namespace Playbook.Number

def hexValue? (c : Char) : Option Nat :=
  if '0' ≤ c ∧ c ≤ '9' then some (c.toNat - 48)
  else if 'a' ≤ c ∧ c ≤ 'f' then some (c.toNat - 87)
  else if 'A' ≤ c ∧ c ≤ 'F' then some (c.toNat - 55)
  else none

def natOfDigits (cs : List Char) : Nat := cs.foldl (fun n c => n * 10 + (c.toNat - 48)) 0

/-- A power of ten beyond which every double is infinite, and below which every one is zero. -/
def powerLimit : Int := 400

/-- `digits * 10 ^ exponent` as a floating-point number. -/
def scientific (negative : Bool) (digits : List Char) (exponent : Int) : Float :=
  let digits := digits.dropWhile (· = '0')
  let reach := exponent + digits.length
  let x :=
    if digits.isEmpty ∨ reach < -powerLimit then 0.0
    else if powerLimit < reach then 1.0 / 0.0
    else Float.ofScientific (natOfDigits digits) (exponent < 0) exponent.natAbs
  if negative then -x else x

/-! ### Signs and exponents -/

/-- Whether a minus sign stands in front, and what follows the sign. -/
def takeSign : List Char → Bool × List Char
  | '-' :: cs => (true, cs)
  | '+' :: cs => (false, cs)
  | cs => (false, cs)

def signed (negative : Bool) (n : Nat) : Int := if negative then -n else n

/-- The power of ten that an exponent names, with what follows it. -/
def exponent? : List Char → Option (Int × List Char)
  | e :: cs =>
    if e = 'e' ∨ e = 'E' then
      let (negative, cs) := takeSign cs
      let digits := cs.takeWhile Char.isDigit
      if digits.isEmpty then none else some (signed negative (natOfDigits digits), cs.drop digits.length)
    else none
  | [] => none

/-- A decimal number: a sign, digits with at most one point, an exponent. -/
def float? (cs : List Char) : Option Float :=
  let (negative, cs) := takeSign cs
  let whole := cs.takeWhile Char.isDigit
  let cs := cs.drop whole.length
  let (places, cs) := match cs with
    | '.' :: cs => (cs.takeWhile Char.isDigit, cs.dropWhile Char.isDigit)
    | _ => ([], cs)
  if whole.isEmpty ∧ places.isEmpty then none
  else
    let number (power : Int) : Float := scientific negative (whole ++ places) (power - places.length)
    match cs, exponent? cs with
    | [], _ => some (number 0)
    | _, some (power, []) => some (number power)
    | _, _ => none

/-- A number of seconds with at most one point, in millionths. -/
def micros? (cs : List Char) : Option Nat :=
  let whole := cs.takeWhile Char.isDigit
  match cs.drop whole.length with
  | [] => if whole.isEmpty then none else some (natOfDigits whole * 1000000)
  | '.' :: places =>
    if places.all Char.isDigit ∧ !(whole.isEmpty ∧ places.isEmpty) then
      some (natOfDigits whole * 1000000 + natOfDigits ((places ++ List.replicate 6 '0').take 6))
    else none
  | _ => none

end Playbook.Number
