import Playbook.Number.Decimals
import Playbook.Shell.Syntax
/-!
# Alternatives in braces

A word with alternatives between braces stands for several words, and so does one with a range. Braces without
either stand for themselves, as everything does that is quoted.
-/

namespace Playbook.Shell.Brace

/-- The parts between the commas up to the closing brace, and what comes behind it. -/
def parts : (depth : Nat) → Word → Option (List Word × Word)
  | _, [] => none
  | depth, p :: ps =>
    match p.char?, depth with
    | some '\x7d', 0 => some ([[]], ps)
    | some ',', 0 => (parts 0 ps).map fun (all, rest) => ([] :: all, rest)
    | some '\x7d', depth + 1 => keep p (parts depth ps)
    | some '\x7b', depth => keep p (parts (depth + 1) ps)
    | _, depth => keep p (parts depth ps)
where
  keep (p : Piece) : Option (List Word × Word) → Option (List Word × Word)
    | some (first :: others, rest) => some ((p :: first) :: others, rest)
    | _ => none

def literal (w : Word) : Option (List Char) := w.mapM Piece.char?

def integer? (cs : List Char) : Option Int :=
  match cs with
  | '-' :: c :: cs => if (c :: cs).all Char.isDigit then some (-Number.natOfDigits (c :: cs)) else none
  | c :: cs => if (c :: cs).all Char.isDigit then some (Number.natOfDigits (c :: cs)) else none
  | [] => none

/-- The words of a range of numbers, which may go down. -/
def range? (w : Word) : Option (List Word) := do
  let cs ← literal w
  let first := cs.takeWhile (· ≠ '.')
  match cs.drop first.length with
  | '.' :: '.' :: last =>
    let a ← integer? first
    let b ← integer? last
    let step : Int := if a ≤ b then 1 else -1
    return (List.range ((b - a).natAbs + 1)).map fun (i : Nat) => (toString (a + step * (i : Int))).toList.map Piece.plain
  | _ => none

def braced (w : Word) : Word := Piece.plain '\x7b' :: w ++ [Piece.plain '\x7d']

def expandFrom : (fuel : Nat) → Word → List Word
  | 0, w => [w]
  | _ + 1, [] => [[]]
  | fuel + 1, p :: ps =>
    match p.char?, parts 0 ps with
    | some '\x7b', some (alternatives, rest) =>
      let heads : List Word := match alternatives with
        | [part] =>
          match range? part with
          | some words => words
          | none => (expandFrom fuel part).map braced
        | parts => parts.flatMap (expandFrom fuel)
      let tails := expandFrom fuel rest
      heads.flatMap fun head => tails.map (head ++ ·)
    | _, _ => (expandFrom fuel ps).map (p :: ·)

def expand (w : Word) : List Word :=
  if w.any (·.char? == some '\x7b') then expandFrom w.length w else [w]

end Playbook.Shell.Brace
