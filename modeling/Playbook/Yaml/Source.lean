/-!
# YAML sources

A YAML text from some character on, with the line and column where that character stands. The byte order
mark takes no column. What cannot be written in YAML at all is told apart here too.
-/

namespace Playbook.Yaml

/-! ### Characters -/

def isBreak (c : Char) : Bool := c == '\n' || c == '\r' || c == '\x85' || c == '\u2028' || c == '\u2029'

/-- Where words end. Tabs end words but do not indent. -/
def isGap (c : Char) : Bool := c == ' ' || c == '\t' || isBreak c

/-- The characters that a YAML text may hold. -/
def isWritable (c : Char) : Bool :=
  let n := c.toNat
  n == 0x09 || n == 0x0a || n == 0x0d || (0x20 ≤ n && n ≤ 0x7e) || n == 0x85 || (0xa0 ≤ n && n ≤ 0xd7ff)
    || (0xe000 ≤ n && n ≤ 0xfffd) || 0x10000 ≤ n

def endsWord : List Char → Bool
  | [] => true
  | c :: _ => isGap c

/-! ### Positions -/

structure Source where
  rest : List Char
  line : Nat
  column : Nat
  offset : Nat
deriving Repr

namespace Source

def ofText (cs : List Char) : Source := ⟨cs, 0, 0, 0⟩

/-- A carriage return ends the line unless a line feed follows it. -/
def step (s : Source) : Source :=
  match s.rest with
  | [] => s
  | c :: rest =>
    if isBreak c ∧ ¬ (c = '\r' ∧ rest.head? = some '\n') then ⟨rest, s.line + 1, 0, s.offset + 1⟩
    else if c = '\ufeff' then ⟨rest, s.line, s.column, s.offset + 1⟩
    else ⟨rest, s.line, s.column + 1, s.offset + 1⟩

def skip : Nat → Source → Source
  | 0, s => s
  | n + 1, s => skip n s.step

/-- The longest run of characters of a kind, and the source behind it. -/
def span (s : Source) (p : Char → Bool) : List Char × Source :=
  (s.rest.takeWhile p, s.skip (s.rest.takeWhile p).length)

def skipWhile (s : Source) (p : Char → Bool) : Source := (s.span p).2

def skipBlanks (s : Source) : Source := s.skipWhile (· == ' ')

def startsWith (s : Source) (c : Char) : Bool := s.rest.head? == some c

def atLineEnd (s : Source) : Bool :=
  match s.rest with
  | [] => true
  | c :: _ => isBreak c

def atWordEnd (s : Source) : Bool := endsWord s.rest

/-- A line break with what it stands for: the two separators of Unicode stand for themselves. -/
def lineBreak? (s : Source) : Option (Char × Source) :=
  match s.rest with
  | '\r' :: '\n' :: _ => some ('\n', s.skip 2)
  | c :: _ =>
    if c = '\u2028' ∨ c = '\u2029' then some (c, s.step)
    else if isBreak c then some ('\n', s.step)
    else none
  | [] => none

/-- Whether three equal marks stand here as a word of their own. -/
def atMark (s : Source) (c : Char) : Bool := s.rest.take 3 == [c, c, c] && endsWord (s.rest.drop 3)

/-- Whether a line that starts here ends the document. -/
def atSeparator (s : Source) : Bool := s.atMark '-' || s.atMark '.'

/-- The line breaks from here on; `skipMargin` passes what may stand in front of each. -/
def breaks (skipMargin : Source → Source) : (fuel : Nat) → Source → List Char × Source
  | 0, s => ([], s)
  | fuel + 1, s =>
    match (skipMargin s).lineBreak? with
    | some (c, s) =>
      let (more, s) := breaks skipMargin fuel s
      (c :: more, s)
    | none => ([], skipMargin s)

end Source

/-! ### Faults -/

/-- Why a text has no value: it is no YAML, or a scalar has no value of its kind. -/
inductive Fault where
  | malformed
  | noSuchCharacter
  | farTooLarge
  | notInteger (text : String) (base : Nat)
  | tooManyDigits (digits : Nat)
  | notNumber (text : String)
  | tooLargeForFloat
  | noNumber
  | notBoolean (text : String)
  | notMoment
  | momentOfMapping
  | noSuchMoment (reason : String)
deriving Repr, DecidableEq

end Playbook.Yaml
