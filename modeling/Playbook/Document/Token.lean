import Playbook.Text.Blank
/-!
# Value tokens

The text after a directive name is cut into tokens. A double quote opens a quoted token if another one
follows somewhere; any other stretch without blanks is a bare token, quotes inside it included.
-/

namespace Playbook

/-- A token, and where it stands in the text that was cut. The length counts the quotes, the value does not. -/
structure Token where
  value : List Char
  start : Nat
  length : Nat
  isQuoted : Bool
deriving Repr, DecidableEq

namespace Token

open Text

/-- The characters of the token in the text. -/
def source (t : Token) : List Char := if t.isQuoted then '"' :: t.value ++ ['"'] else t.value

/-- The token that begins with `c`, and the text after it. -/
def next (start : Nat) (c : Char) (cs : List Char) : Token × List Char :=
  if c = '"' ∧ '"' ∈ cs then
    let value := cs.takeWhile (· ≠ '"')
    (⟨value, start, value.length + 2, true⟩, (cs.dropWhile (· ≠ '"')).tail)
  else
    let value := c :: cs.takeWhile (!isBlankChar ·)
    (⟨value, start, value.length, false⟩, cs.dropWhile (!isBlankChar ·))

theorem length_next_le (start : Nat) (c : Char) (cs : List Char) : (next start c cs).2.length ≤ cs.length := by
  unfold next
  split
  · have := (List.dropWhile_sublist (l := cs) (· ≠ '"')).length_le
    simp only [List.length_tail]
    omega
  · exact (List.dropWhile_sublist _).length_le

/-- The tokens of a text whose first character stands at `start`. -/
def scanFrom (start : Nat) : List Char → List Token
  | [] => []
  | c :: cs =>
    if isBlankChar c then scanFrom (start + 1) cs
    else (next start c cs).1 :: scanFrom (start + (next start c cs).1.length) (next start c cs).2
termination_by cs => cs.length
decreasing_by
  · simp
  · exact Nat.lt_succ_of_le (length_next_le start c cs)

def scan (cs : List Char) : List Token := scanFrom 0 cs

/-! ### Flag names -/

def isNameStart (c : Char) : Bool := c.isAlpha || c == '_'

def isNameChar (c : Char) : Bool := c.isAlphanum || c == '_'

/-- ASCII letters, digits and underscores, and no digit in front. -/
def isName : List Char → Bool
  | [] => false
  | c :: cs => isNameStart c && cs.all isNameChar

/-- The name that a bare token of the form `--name` gives to a flag. -/
def flagName? (t : Token) : Option (List Char) :=
  match t.isQuoted, t.value with
  | false, '-' :: '-' :: name => if isName name then some name else none
  | _, _ => none

end Token

/-- The values of all tokens of a text. -/
def parseValues (text : String) : List String := (Token.scan text.toList).map (String.ofList ·.value)

end Playbook
