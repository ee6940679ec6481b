import Playbook.Text.Mark
import Playbook.Text.Ranges
/-!
# Characters that need a neighbour

A few characters may stand in a domain name only beside others: joiners behind a mark that joins, or between letters
that join, a middle dot between two letters, signs of a script with its letters, and digits without other digits.
-/

namespace Playbook.Web

/-- To which sides a letter joins. -/
inductive Joining where
  | both
  | before
  | after
deriving Repr, DecidableEq

/-- Greek letters, as closed ranges. -/
def greekRanges : List (Nat × Nat) := [
  (0x371, 0x371), (0x373, 0x373), (0x375, 0x375), (0x377, 0x377), (0x37b, 0x37d), (0x390, 0x390), (0x3ac, 0x3ce), (0x3d7, 0x3d7),
  (0x3d9, 0x3d9), (0x3db, 0x3db), (0x3dd, 0x3dd), (0x3df, 0x3df), (0x3e1, 0x3e1), (0x3f3, 0x3f3), (0x3f8, 0x3f8), (0x3fb, 0x3fc),
  (0x1d26, 0x1d2a), (0x1f00, 0x1f07), (0x1f10, 0x1f15), (0x1f20, 0x1f27), (0x1f30, 0x1f37), (0x1f40, 0x1f45), (0x1f50, 0x1f57), (0x1f60, 0x1f67),
  (0x1f70, 0x1f70), (0x1f72, 0x1f72), (0x1f74, 0x1f74), (0x1f76, 0x1f76), (0x1f78, 0x1f78), (0x1f7a, 0x1f7a), (0x1f7c, 0x1f7c), (0x1fb0, 0x1fb1),
  (0x1fb6, 0x1fb6), (0x1fc6, 0x1fc6), (0x1fd0, 0x1fd2), (0x1fd6, 0x1fd7), (0x1fe0, 0x1fe2), (0x1fe4, 0x1fe7), (0x1ff6, 0x1ff6), (0xab65, 0xab65)]

/-- Hebrew letters, as closed ranges. -/
def hebrewRanges : List (Nat × Nat) := [
  (0x591, 0x5bd), (0x5bf, 0x5bf), (0x5c1, 0x5c2), (0x5c4, 0x5c5), (0x5c7, 0x5c7), (0x5d0, 0x5ea), (0x5ef, 0x5f4), (0xfb1e, 0xfb1e)]

/-- Kana and ideographs, as closed ranges. -/
def eastAsianRanges : List (Nat × Nat) := [
  (0x3005, 0x3005), (0x3007, 0x3007), (0x3041, 0x3096), (0x309d, 0x309e), (0x30a1, 0x30fa), (0x30fd, 0x30fe), (0x31f0, 0x31ff), (0x3400, 0x4dbf),
  (0x4e00, 0x9fff), (0xfa0e, 0xfa0f), (0xfa11, 0xfa11), (0xfa13, 0xfa14), (0xfa1f, 0xfa1f), (0xfa21, 0xfa21), (0xfa23, 0xfa24), (0xfa27, 0xfa29),
  (0x16fe3, 0x16fe3), (0x16ff0, 0x16ff1), (0x1aff0, 0x1aff3), (0x1aff5, 0x1affb), (0x1affd, 0x1affe), (0x1b000, 0x1b122), (0x1b150, 0x1b152), (0x1b164, 0x1b167),
  (0x20000, 0x2a6df), (0x2a700, 0x2b738), (0x2b740, 0x2b81d), (0x2b820, 0x2cea1), (0x2ceb0, 0x2ebe0), (0x30000, 0x3134a)]

/-- Letters that join, as closed ranges. -/
def joiningRanges : List (Nat × Nat × Joining) := [
  (0x620, 0x620, .both), (0x622, 0x625, .before), (0x626, 0x626, .both), (0x627, 0x627, .before), (0x628, 0x628, .both), (0x629, 0x629, .before), (0x62a, 0x62e, .both),
  (0x62f, 0x632, .before), (0x633, 0x63f, .both), (0x641, 0x647, .both), (0x648, 0x648, .before), (0x649, 0x64a, .both), (0x66e, 0x66f, .both), (0x671, 0x673, .before),
  (0x679, 0x687, .both), (0x688, 0x699, .before), (0x69a, 0x6bf, .both), (0x6c0, 0x6c0, .before), (0x6c1, 0x6c2, .both), (0x6c3, 0x6cb, .before), (0x6cc, 0x6cc, .both),
  (0x6cd, 0x6cd, .before), (0x6ce, 0x6ce, .both), (0x6cf, 0x6cf, .before), (0x6d0, 0x6d1, .both), (0x6d2, 0x6d3, .before), (0x6d5, 0x6d5, .before), (0x6ee, 0x6ef, .before),
  (0x6fa, 0x6fc, .both), (0x6ff, 0x6ff, .both), (0x710, 0x710, .before), (0x712, 0x714, .both), (0x715, 0x719, .before), (0x71a, 0x71d, .both), (0x71e, 0x71e, .before),
  (0x71f, 0x727, .both), (0x728, 0x728, .before), (0x729, 0x729, .both), (0x72a, 0x72a, .before), (0x72b, 0x72b, .both), (0x72c, 0x72c, .before), (0x72d, 0x72e, .both),
  (0x72f, 0x72f, .before), (0x74d, 0x74d, .before), (0x74e, 0x758, .both), (0x759, 0x75b, .before), (0x75c, 0x76a, .both), (0x76b, 0x76c, .before), (0x76d, 0x770, .both),
  (0x771, 0x771, .before), (0x772, 0x772, .both), (0x773, 0x774, .before), (0x775, 0x777, .both), (0x778, 0x779, .before), (0x77a, 0x77f, .both), (0x7ca, 0x7ea, .both),
  (0x840, 0x840, .before), (0x841, 0x845, .both), (0x846, 0x847, .before), (0x848, 0x848, .both), (0x849, 0x849, .before), (0x84a, 0x853, .both), (0x854, 0x854, .before),
  (0x855, 0x855, .both), (0x856, 0x858, .before), (0x860, 0x860, .both), (0x862, 0x865, .both), (0x867, 0x867, .before), (0x868, 0x868, .both), (0x869, 0x86a, .before),
  (0x870, 0x882, .before), (0x886, 0x886, .both), (0x889, 0x88d, .both), (0x88e, 0x88e, .before), (0x8a0, 0x8a9, .both), (0x8aa, 0x8ac, .before), (0x8ae, 0x8ae, .before),
  (0x8af, 0x8b0, .both), (0x8b1, 0x8b2, .before), (0x8b3, 0x8b8, .both), (0x8b9, 0x8b9, .before), (0x8ba, 0x8c8, .both), (0x1820, 0x1878, .both), (0x1887, 0x18a8, .both),
  (0x18aa, 0x18aa, .both), (0xa840, 0xa871, .both), (0xa872, 0xa872, .after), (0x10ac0, 0x10ac4, .both), (0x10ac5, 0x10ac5, .before), (0x10ac7, 0x10ac7, .before), (0x10ac9, 0x10aca, .before),
  (0x10acd, 0x10acd, .after), (0x10ace, 0x10ad2, .before), (0x10ad3, 0x10ad6, .both), (0x10ad7, 0x10ad7, .after), (0x10ad8, 0x10adc, .both), (0x10add, 0x10add, .before), (0x10ade, 0x10ae0, .both),
  (0x10ae1, 0x10ae1, .before), (0x10ae4, 0x10ae4, .before), (0x10b80, 0x10b80, .both), (0x10b81, 0x10b81, .before), (0x10b82, 0x10b82, .both), (0x10b83, 0x10b85, .before), (0x10b86, 0x10b88, .both),
  (0x10b89, 0x10b89, .before), (0x10b8a, 0x10b8b, .both), (0x10b8c, 0x10b8c, .before), (0x10b8d, 0x10b8d, .both), (0x10b8e, 0x10b8f, .before), (0x10b90, 0x10b90, .both), (0x10b91, 0x10b91, .before),
  (0x10d00, 0x10d00, .after), (0x10d01, 0x10d21, .both), (0x10d22, 0x10d22, .before), (0x10d23, 0x10d23, .both), (0x10f30, 0x10f32, .both), (0x10f33, 0x10f33, .before), (0x10f34, 0x10f44, .both),
  (0x10f70, 0x10f73, .both), (0x10f74, 0x10f75, .before), (0x10f76, 0x10f81, .both), (0x10fb0, 0x10fb0, .both), (0x10fb2, 0x10fb3, .both), (0x10fb4, 0x10fb6, .before), (0x10fb8, 0x10fb8, .both),
  (0x10fb9, 0x10fba, .before), (0x10fbb, 0x10fbc, .both), (0x10fbd, 0x10fbd, .before), (0x10fbe, 0x10fbf, .both), (0x10fc1, 0x10fc1, .both), (0x10fc2, 0x10fc3, .before), (0x10fc4, 0x10fc4, .both),
  (0x1e922, 0x1e943, .both)]

def joining? (c : Char) : Option Joining :=
  (joiningRanges.find? fun (first, last, _) => first ≤ c.toNat && c.toNat ≤ last).map (·.2.2)

/-- The class of the marks that join. -/
def joiningClass : Nat := 9

def isArabicDigit (c : Char) : Bool := '\u0660' ≤ c && c ≤ '\u0669'

def isPersianDigit (c : Char) : Bool := '\u06f0' ≤ c && c ≤ '\u06f9'

/-- The first letter that is no mark joins in a way that is wanted. -/
def joins (wanted : Joining) (cs : List Char) : Bool :=
  match ((cs.dropWhile Text.isNonspacing).head?).bind joining? with
  | some j => j = wanted || j = .both
  | none => false

/-- Whether the character may stand behind `before`, the nearest one first, and in front of `after`. -/
def suits (before : List Char) (c : Char) (after : List Char) : Bool :=
  let behindJoiningMark := before.head?.any fun m => Text.markClass m = joiningClass
  if c = '\u200c' then behindJoiningMark || (joins .after before && joins .before after)
  else if c = '\u200d' then behindJoiningMark
  else if c = '\u00b7' then before.head? = some 'l' && after.head? = some 'l'
  else if c = '\u0375' then after.head?.any (Text.isIn greekRanges)
  else if c = '\u05f3' ∨ c = '\u05f4' then before.head?.any (Text.isIn hebrewRanges)
  else if c = '\u30fb' then before.any (Text.isIn eastAsianRanges) || after.any (Text.isIn eastAsianRanges)
  else if isArabicDigit c then !before.any isPersianDigit && !after.any isPersianDigit
  else if isPersianDigit c then !before.any isArabicDigit && !after.any isArabicDigit
  else false

end Playbook.Web
