import Playbook.Text.Mark
/-!
# Directions

Which way letters and digits are written. A text that has anything written from right to left must not mix
directions.
-/

namespace Playbook.Text

inductive Direction where
  | left
  | right
  | arabic
  | number
  | arabicNumber
  /-- Goes with what is around it. -/
  | neutral
  /-- Goes with the letter in front of it. -/
  | attached
deriving Repr, DecidableEq

/-- Characters that are not written from left to right, and marks that are, as closed ranges. -/
def directions : List (Nat × Nat × Direction) := [
  (0x2d, 0x2d, .neutral), (0x30, 0x39, .number), (0xb7, 0xb7, .neutral), (0x2b9, 0x2ba, .neutral), (0x2c6, 0x2cf, .neutral), (0x2ec, 0x2ec, .neutral),
  (0x375, 0x375, .neutral), (0x5d0, 0x5ea, .right), (0x5ef, 0x5f4, .right), (0x620, 0x63f, .arabic), (0x641, 0x64a, .arabic), (0x660, 0x669, .arabicNumber),
  (0x66e, 0x66f, .arabic), (0x671, 0x674, .arabic), (0x679, 0x6d3, .arabic), (0x6d5, 0x6d5, .arabic), (0x6e5, 0x6e6, .arabic), (0x6ee, 0x6ef, .arabic),
  (0x6f0, 0x6f9, .number), (0x6fa, 0x6ff, .arabic), (0x710, 0x710, .arabic), (0x712, 0x72f, .arabic), (0x74d, 0x7a5, .arabic), (0x7b1, 0x7b1, .arabic),
  (0x7c0, 0x7ea, .right), (0x7f4, 0x7f5, .right), (0x800, 0x815, .right), (0x81a, 0x81a, .right), (0x824, 0x824, .right), (0x828, 0x828, .right),
  (0x840, 0x858, .right), (0x860, 0x86a, .arabic), (0x870, 0x887, .arabic), (0x889, 0x88e, .arabic), (0x8a0, 0x8c9, .arabic), (0xcbf, 0xcbf, .left),
  (0xcc6, 0xcc6, .left), (0x200c, 0x200d, .neutral), (0x2e2f, 0x2e2f, .neutral), (0x30fb, 0x30fb, .neutral), (0xa67f, 0xa67f, .neutral), (0xa717, 0xa71f, .neutral),
  (0xa788, 0xa788, .neutral), (0xfe73, 0xfe73, .arabic), (0x10800, 0x10805, .right), (0x10808, 0x10808, .right), (0x1080a, 0x10835, .right), (0x10837, 0x10838, .right),
  (0x1083c, 0x1083c, .right), (0x1083f, 0x10855, .right), (0x10860, 0x10876, .right), (0x10880, 0x1089e, .right), (0x108e0, 0x108f2, .right), (0x108f4, 0x108f5, .right),
  (0x10900, 0x10915, .right), (0x10920, 0x10939, .right), (0x10980, 0x109b7, .right), (0x109be, 0x109bf, .right), (0x10a00, 0x10a00, .right), (0x10a10, 0x10a13, .right),
  (0x10a15, 0x10a17, .right), (0x10a19, 0x10a35, .right), (0x10a60, 0x10a7c, .right), (0x10a80, 0x10a9c, .right), (0x10ac0, 0x10ac7, .right), (0x10ac9, 0x10ae4, .right),
  (0x10b00, 0x10b35, .right), (0x10b40, 0x10b55, .right), (0x10b60, 0x10b72, .right), (0x10b80, 0x10b91, .right), (0x10c00, 0x10c48, .right), (0x10cc0, 0x10cf2, .right),
  (0x10d00, 0x10d23, .arabic), (0x10d30, 0x10d39, .arabicNumber), (0x10e80, 0x10ea9, .right), (0x10eb0, 0x10eb1, .right), (0x10f00, 0x10f1c, .right), (0x10f27, 0x10f27, .right),
  (0x10f30, 0x10f45, .arabic), (0x10f70, 0x10f81, .right), (0x10fb0, 0x10fc4, .right), (0x10fe0, 0x10ff6, .right), (0x11a07, 0x11a08, .left), (0x11c3f, 0x11c3f, .left),
  (0x1e800, 0x1e8c4, .right), (0x1e922, 0x1e943, .right), (0x1e94b, 0x1e94b, .right), (0x1e950, 0x1e959, .right)]

def direction (c : Char) : Direction :=
  match directions.find? fun (first, last, _) => first ≤ c.toNat && c.toNat ≤ last with
  | some (_, _, d) => d
  | none => if isNonspacing c then .attached else .left

namespace Direction

def runsBackwards : Direction → Bool
  | right | arabic | arabicNumber => true
  | _ => false

/-- Whether a text of these directions ends as it has to; `ends` are the directions that it may end with. -/
def endsWith (ends : List Direction) (ds : List Direction) : Bool :=
  ((ds.reverse.dropWhile (· = attached)).head?).any ends.contains

/-- A text with anything written from right to left starts that way, ends that way or with digits, and holds digits
of one kind only. -/
def isConsistent (ds : List Direction) : Bool :=
  if !ds.any runsBackwards then true
  else match ds.head? with
    | some right | some arabic =>
      !ds.contains left && endsWith [right, arabic, number, arabicNumber] ds
        && !(ds.contains number && ds.contains arabicNumber)
    | _ => false

end Direction

end Playbook.Text
