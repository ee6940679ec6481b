/-!
# Shortest decimals

A floating-point number stands for the interval of reals that round to it. The shortest decimal of the
number is the multiple of the greatest power of ten that lies in that interval, and of two such multiples
the one nearer to the number.
-/

namespace Playbook.Number

/-- `digits * 10 ^ exponent`. -/
structure Decimal where
  digits : Nat
  exponent : Int
deriving Repr, DecidableEq

/-- A positive number `value / scale` with the interval from `low / scale` to `high / scale` that rounds to it. -/
structure Interval where
  low : Nat
  value : Nat
  high : Nat
  scale : Nat
  closed : Bool

/-- The interval of a positive finite number, from its fraction bits and its biased exponent. -/
def Interval.ofBits (fraction biased : Nat) : Interval :=
  let mantissa := if biased = 0 then fraction else fraction + Nat.pow 2 52
  let exponent : Int := (if biased = 0 then 1 else biased : Nat) - 1075
  let below := if fraction = 0 ∧ 1 < biased then 1 else 2
  let up := Nat.pow 2 exponent.toNat
  { low := (4 * mantissa - below) * up
    value := 4 * mantissa * up
    high := (4 * mantissa + 2) * up
    scale := 4 * Nat.pow 2 (-exponent).toNat
    closed := mantissa % 2 = 0 }

/-- Whether `digits * 10 ^ exponent` rounds to the number. -/
def Interval.holds (i : Interval) (d : Decimal) : Bool :=
  let x := d.digits * Nat.pow 10 d.exponent.toNat * i.scale
  let unit := Nat.pow 10 (-d.exponent).toNat
  if i.closed then i.low * unit ≤ x && x ≤ i.high * unit else i.low * unit < x && x < i.high * unit

/-- The multiple of `10 ^ exponent` in the interval that is nearest to the number; a tie goes to the even one. -/
def Interval.onGrid (i : Interval) (exponent : Int) : Option Decimal :=
  let num := i.value * Nat.pow 10 (-exponent).toNat
  let den := i.scale * Nat.pow 10 exponent.toNat
  let lower : Decimal := ⟨num / den, exponent⟩
  let upper : Decimal := ⟨num / den + 1, exponent⟩
  let rest := num % den
  let upperNearer : Bool := den < 2 * rest || (den == 2 * rest && lower.digits % 2 == 1)
  match decide (lower.digits ≠ 0) && i.holds lower, i.holds upper with
  | true, true => some (if upperNearer then upper else lower)
  | true, false => some lower
  | false, true => some upper
  | false, false => none

/-- Tries the grids from `10 ^ exponent` downwards. -/
def Interval.search (i : Interval) : (grids : Nat) → (exponent : Int) → Decimal
  | 0, exponent => ⟨0, exponent⟩
  | grids + 1, exponent => (i.onGrid exponent).getD (i.search grids (exponent - 1))

def Interval.shortest (i : Interval) : Decimal :=
  let top := (Nat.toDigits 10 (i.value / i.scale)).length
  i.search (top + 330) top

end Playbook.Number
