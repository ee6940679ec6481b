/-!
# Punycode

Texts of any characters written with ASCII alone. The ASCII characters come first; behind a hyphen, numbers say in
which order the other characters are put in, and where. A number has as few digits as it can, and how many that is
depends on the numbers before it.
-/

namespace Playbook.Web.Punycode

/-! ### Digits -/

def digitChar (d : Nat) : Char := if d < 26 then Char.ofNat (97 + d) else Char.ofNat (22 + d)

def digitValue? (c : Char) : Option Nat :=
  if 'a' ≤ c ∧ c ≤ 'z' then some (c.toNat - 97)
  else if 'A' ≤ c ∧ c ≤ 'Z' then some (c.toNat - 65)
  else if '0' ≤ c ∧ c ≤ '9' then some (c.toNat - 22)
  else none

/-- Digits below the threshold end a number; `place` counts the digits in front. -/
def threshold (bias place : Nat) : Nat := min 26 (max 1 (36 * (place + 1) - bias))

/-- The bias that suits numbers like the last one. -/
def reduce : (fuel : Nat) → (bias delta : Nat) → Nat
  | 0, bias, _ => bias
  | fuel + 1, bias, delta => if 455 < delta then reduce fuel (bias + 36) (delta / 35) else bias + 36 * delta / (delta + 38)

def adapt (delta count : Nat) (isFirst : Bool) : Nat :=
  let delta := if isFirst then delta / 700 else delta / 2
  let delta := delta + delta / count
  reduce (delta + 1) 0 delta

/-! ### Writing -/

def digits (bias : Nat) : (fuel place n : Nat) → List Char
  | 0, _, _ => []
  | fuel + 1, place, n =>
    let t := threshold bias place
    if n < t then [digitChar n] else digitChar (t + (n - t) % (36 - t)) :: digits bias fuel (place + 1) ((n - t) / (36 - t))

structure Writer where
  written : List Char
  delta : Nat
  bias : Nat
  /-- How many characters are written, those of ASCII included. -/
  count : Nat

/-- Passes one character of the text while those with the given number are put in. -/
def Writer.pass (isFirst : Nat → Bool) (n : Nat) (w : Writer) (c : Char) : Writer :=
  if c.toNat < n then { w with delta := w.delta + 1 }
  else if c.toNat = n then
    ⟨w.written ++ digits w.bias (w.delta + 1) 0 w.delta, 0, adapt w.delta (w.count + 1) (isFirst w.count), w.count + 1⟩
  else w

/-- Puts in the characters with the given numbers, which ascend from `next` on. -/
def writeFrom (cs : List Char) (basic : Nat) : (next : Nat) → List Nat → Writer → Writer
  | _, [], w => w
  | next, n :: rest, w =>
    let w := cs.foldl (Writer.pass (· = basic) n) { w with delta := w.delta + (n - next) * (w.count + 1) }
    writeFrom cs basic (n + 1) rest { w with delta := w.delta + 1 }

def encode (cs : List Char) : List Char :=
  let basic := cs.filter (·.toNat < 0x80)
  let others := ((cs.filter (0x80 ≤ ·.toNat)).map Char.toNat).mergeSort.eraseDups
  let w := writeFrom cs basic.length 0x80 others ⟨[], 0, 72, basic.length⟩
  basic ++ (if basic.isEmpty then [] else ['-']) ++ w.written

/-! ### Reading -/

/-- The number at the front and what follows it; `place` counts the digits in front. -/
def number (bias : Nat) : (place : Nat) → List Char → Option (Nat × List Char)
  | _, [] => none
  | place, c :: cs => do
    let d ← digitValue? c
    let t := threshold bias place
    if d < t then return (d, cs)
    let (more, rest) ← number bias (place + 1) cs
    return (d + more * (36 - t), rest)

/-- Puts characters in; `place` is where the next one goes and `n` its number at least. -/
def readFrom : (fuel : Nat) → (text : List Nat) → (n place bias : Nat) → (isFirst : Bool) → List Char → Option (List Nat)
  | _, text, _, _, _, _, [] => some text
  | 0, _, _, _, _, _, _ :: _ => none
  | fuel + 1, text, n, place, bias, isFirst, cs => do
    let (delta, rest) ← number bias 0 cs
    let count := text.length + 1
    let n := n + (place + delta) / count
    let place := (place + delta) % count
    if 0x110000 ≤ n then none
    else readFrom fuel (text.take place ++ n :: text.drop place) n (place + 1) (adapt delta count isFirst) false rest

/-- The text, if every number in it is one of a character. -/
def decode (cs : List Char) : Option (List Char) := do
  let back := cs.reverse
  let extended := (back.takeWhile (· ≠ '-')).reverse
  let basic := ((back.drop extended.length).drop 1).reverse
  let text ← readFrom (extended.length + 1) (basic.map Char.toNat) 0x80 0 72 true extended
  text.mapM fun n => if (Char.ofNat n).toNat = n then some (Char.ofNat n) else none

end Playbook.Web.Punycode
