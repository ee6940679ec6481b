import Playbook.Number.Shortest
/-!
# Floating-point numbers as text

The shortest decimal that reads back, positional from `0.0001` up to sixteen digits before the point, else
with an exponent of at least two digits.
-/

namespace Playbook.Number

/-- How a decimal is laid out. -/
structure FloatFormat where
  leastPositional : Int
  greatestPositional : Int
  exponentWidth : Nat

/-- One point per number: `8.0`, `0.05`, `1e+16`. -/
def floatFormat : FloatFormat := ⟨-4, 15, 2⟩

def padLeft (width : Nat) (cs : List Char) : List Char := List.replicate (width - cs.length) '0' ++ cs

def FloatFormat.exponentText (f : FloatFormat) (e : Int) : List Char :=
  'e' :: (if e < 0 then '-' else '+') :: padLeft f.exponentWidth (Nat.toDigits 10 e.natAbs)

/-- The text of a positive decimal whose last digit is not zero. -/
def FloatFormat.text (f : FloatFormat) (d : Decimal) : List Char :=
  let ds := Nat.toDigits 10 d.digits
  let lead : Int := d.exponent + ds.length - 1
  if lead < f.leastPositional ∨ f.greatestPositional < lead then
    match ds with
    | [] => []
    | c :: [] => c :: f.exponentText lead
    | c :: cs => c :: '.' :: cs ++ f.exponentText lead
  else if 0 ≤ d.exponent then ds ++ List.replicate d.exponent.toNat '0' ++ ['.', '0']
  else if 0 ≤ lead then ds.take (lead.toNat + 1) ++ '.' :: ds.drop (lead.toNat + 1)
  else '0' :: '.' :: List.replicate (-lead - 1).toNat '0' ++ ds

def floatText (x : Float) : String :=
  let bits := x.toBits.toNat
  let fraction := bits % Nat.pow 2 52
  let biased := bits / Nat.pow 2 52 % Nat.pow 2 11
  let sign := if Nat.pow 2 63 ≤ bits then "-" else ""
  if biased = 2047 then if fraction = 0 then sign ++ "inf" else "nan"
  else if fraction = 0 ∧ biased = 0 then sign ++ "0.0"
  else sign ++ String.ofList (floatFormat.text (Interval.ofBits fraction biased).shortest)

end Playbook.Number
