import Playbook.Number.Decimals
/-!
# Internet addresses

Addresses of numbers: four of them below 256 with points between them, or eight of sixteen bits with colons, where
two colons stand for as many zeros as are missing.
-/

namespace Playbook.Web.Address

/-! ### Four numbers -/

def isByte (cs : List Char) : Bool :=
  !cs.isEmpty && cs.length ≤ 3 && cs.all Char.isDigit && (cs.length == 1 || cs.head? != some '0')
    && Number.natOfDigits cs ≤ 255

def isFour (cs : List Char) : Bool :=
  let numbers := cs.splitOn '.'
  numbers.length == 4 && numbers.all isByte

/-- How far a text of four numbers with any character between them may have come: even places are in front of a
number, odd ones inside it. -/
def fourStep (places : List Nat) (c : Char) : List Nat :=
  (places.flatMap fun place =>
    (if c.isDigit then [place / 2 * 2 + 1] else []) ++ (if place % 2 = 1 ∧ place < 7 then [place + 1] else [])).eraseDups

/-- Whether the text looks like an address of four numbers. -/
def looksLikeFour (cs : List Char) : Bool := (cs.foldl fourStep [0]).contains 7

/-! ### Eight numbers -/

def isWord (cs : List Char) : Bool := cs.length ≤ 4 && cs.all fun c => (Number.hexValue? c).isSome

/-- The parts between colons, where the last one may be an address of four numbers, which takes two places. -/
def words? (cs : List Char) : Option (List (List Char)) :=
  let words := cs.splitOn ':'
  match words.getLast? with
  | some last =>
    if words.length < 3 then none
    else if !last.contains '.' then some words
    else if isFour last then some (words.dropLast ++ [['0'], ['0']])
    else none
  | none => none

/-- The places, neither the first nor the last, where nothing stands between two colons. -/
def gaps (words : List (List Char)) : List Nat :=
  (List.range words.length).filter fun i => 0 < i && i + 1 < words.length && words[i]?.any List.isEmpty

def isEight (cs : List Char) : Bool :=
  match words? cs with
  | none => false
  | some words =>
    let startsEmpty := words.head?.any List.isEmpty
    let endsEmpty := words.getLast?.any List.isEmpty
    words.length ≤ 9 && words.all isWord && match gaps words with
      | [] => words.length == 8 && !startsEmpty && !endsEmpty
      | [gap] =>
        let before := gap - (if startsEmpty then 1 else 0)
        let after := words.length - gap - 1 - (if endsEmpty then 1 else 0)
        (!startsEmpty || before == 0) && (!endsEmpty || after == 0) && before + after < 8
      | _ => false

/-- An address of eight numbers may name a zone behind a percent sign. -/
def isZoned (cs : List Char) : Bool :=
  let address := cs.takeWhile (· ≠ '%')
  let zone := cs.drop (address.length + 1)
  !cs.contains '/' && isEight address && (address.length == cs.length || (!zone.isEmpty && !zone.contains '%'))

end Playbook.Web.Address
