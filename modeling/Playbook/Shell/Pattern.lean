import Playbook.Text.Blank
/-!
# Patterns

Patterns with wildcards, for names of files and for whole texts. A pattern fits a text as a whole or not at all.
-/

namespace Playbook.Shell

inductive Wildcard where
  | char (c : Char)
  | one
  | many
  | set (isNegated : Bool) (ranges : List (Char × Char))
deriving Repr, DecidableEq

abbrev Pattern := List Wildcard

/-- Characters, and whether each may have a special meaning. -/
abbrev Marked := List (Char × Bool)

namespace Pattern

/-! ### Reading -/

/-- The members of a set up to its end; a closing bracket may be its first member. -/
def members : (fuel : Nat) → (isFirst : Bool) → Marked → Option (List (Char × Char) × Marked)
  | 0, _, _ | _, _, [] => none
  | fuel + 1, isFirst, (a, _) :: cs =>
    if a = ']' ∧ !isFirst then some ([], cs)
    else
      let (upTo, rest) := match cs with
        | ('-', _) :: (b, _) :: rest => if b = ']' then (a, cs) else (b, rest)
        | cs => (a, cs)
      (members fuel false rest).map fun (ranges, rest) => ((a, upTo) :: ranges, rest)

def set? (cs : Marked) : Option (Wildcard × Marked) :=
  let isNegated := cs.head?.any fun (c, _) => c == '!' || c == '^'
  (members cs.length true (if isNegated then cs.tail else cs)).map fun (ranges, rest) => (.set isNegated ranges, rest)

def readFrom : (fuel : Nat) → Marked → Pattern
  | 0, _ | _, [] => []
  | fuel + 1, ('*', true) :: cs => .many :: readFrom fuel cs
  | fuel + 1, ('?', true) :: cs => .one :: readFrom fuel cs
  | fuel + 1, ('[', true) :: cs =>
    match set? cs with
    | some (w, rest) => w :: readFrom fuel rest
    | none => .char '[' :: readFrom fuel cs
  | fuel + 1, (c, _) :: cs => .char c :: readFrom fuel cs

def ofMarked (cs : Marked) : Pattern := readFrom cs.length cs

/-- The text that the pattern is, if it has no wildcards. -/
def literal? (p : Pattern) : Option (List Char) := p.mapM fun
  | .char c => some c
  | _ => none

/-! ### Fitting -/

def accepts (w : Wildcard) (c : Char) : Bool :=
  match w with
  | .char d => c == d
  | .one | .many => true
  | .set isNegated ranges => (ranges.any fun (a, b) => a ≤ c && c ≤ b) != isNegated

def fits : Pattern → List Char → Bool
  | [], cs => cs.isEmpty
  | .many :: p, [] => fits p []
  | .many :: p, c :: cs => fits p (c :: cs) || fits (.many :: p) cs
  | w :: p, c :: cs => accepts w c && fits p cs
  | _ :: _, [] => false
termination_by p cs => p.length + cs.length

/-- The text without what the pattern fits at its beginning. -/
def trimStart (p : Pattern) (longest : Bool) (cs : List Char) : List Char :=
  let sizes := (List.range (cs.length + 1)).filter fun n => p.fits (cs.take n)
  cs.drop ((if longest then sizes.getLast? else sizes.head?).getD 0)

/-- The text without what the pattern fits at its end. -/
def trimEnd (p : Pattern) (longest : Bool) (cs : List Char) : List Char :=
  let sizes := (List.range (cs.length + 1)).filter fun n => p.fits (cs.drop n)
  cs.take ((if longest then sizes.head? else sizes.getLast?).getD cs.length)

end Pattern

end Playbook.Shell
