import Playbook.Shell.Syntax
import Playbook.Text.JsonReader
/-!
# Shell arithmetic

Whole numbers of sixty-four bits with the usual operators. A name stands for the value that the caller looks up
or that was assigned on the way, and a comparison is one or zero. Division drops the fraction.
-/

namespace Playbook.Shell

/-- Why an expression has no value, and from where on it goes wrong. -/
inductive ArithmeticFault where
  | missingOperand (rest : List Char)
  | trailing (rest : List Char)
  | divisionByZero (rest : List Char)
deriving Repr, DecidableEq

namespace Arithmetic

inductive Operator where
  | or
  | and
  | bitOr
  | bitXor
  | bitAnd
  | equal
  | unequal
  | atMost
  | atLeast
  | below
  | above
  | shiftLeft
  | shiftRight
  | plus
  | minus
  | times
  | quotient
  | remainder
  | power
deriving Repr, DecidableEq

namespace Operator

/-- How tightly the operator binds. -/
def level : Operator → Nat
  | or => 0
  | and => 1
  | bitOr => 2
  | bitXor => 3
  | bitAnd => 4
  | equal | unequal => 5
  | atMost | atLeast | below | above => 6
  | shiftLeft | shiftRight => 7
  | plus | minus => 8
  | times | quotient | remainder => 9
  | power => 10

def spellings (d : Dialect) : List (List Char × Operator) :=
  (if d = .bash then [(['*', '*'], power)] else []) ++ [
    (['|', '|'], or), (['&', '&'], and), (['=', '='], equal), (['!', '='], unequal), (['<', '<'], shiftLeft),
    (['>', '>'], shiftRight), (['<', '='], atMost), (['>', '='], atLeast), (['<'], below), (['>'], above),
    (['|'], bitOr), (['^'], bitXor), (['&'], bitAnd), (['+'], plus), (['-'], minus), (['*'], times),
    (['/'], quotient), (['%'], remainder)]

/-- The operator at the beginning, the longer spelling first. -/
def atStart? (d : Dialect) (cs : List Char) : Option (Operator × List Char) :=
  ((spellings d).find? fun (spelling, _) => spelling.isPrefixOf cs).map fun (spelling, o) =>
    (o, cs.drop spelling.length)

/-- The operators that may stand in front of an assignment sign. -/
def assigns : Operator → Bool
  | shiftLeft | shiftRight | bitOr | bitXor | bitAnd | plus | minus | times | quotient | remainder => true
  | _ => false

end Operator

def truth (b : Bool) : Int := if b then 1 else 0

def wrap (n : Int) : Int := n.bmod (Nat.pow 2 64)

def bits (n : Int) : Nat := (n % Int.pow 2 64).toNat

namespace Operator

/-- Nothing for a division by zero. -/
def result? (o : Operator) (a b : Int) : Option Int :=
  let shift := bits b % 64
  match o with
  | or => some (truth (a ≠ 0 ∨ b ≠ 0))
  | and => some (truth (a ≠ 0 ∧ b ≠ 0))
  | bitOr => some (wrap (bits a ||| bits b))
  | bitXor => some (wrap (bits a ^^^ bits b))
  | bitAnd => some (wrap (bits a &&& bits b))
  | equal => some (truth (a = b))
  | unequal => some (truth (a ≠ b))
  | atMost => some (truth (a ≤ b))
  | atLeast => some (truth (a ≥ b))
  | below => some (truth (a < b))
  | above => some (truth (a > b))
  | shiftLeft => some (wrap (a * Int.pow 2 shift))
  | shiftRight => some (a.fdiv (Int.pow 2 shift))
  | plus => some (wrap (a + b))
  | minus => some (wrap (a - b))
  | times => some (wrap (a * b))
  | quotient => if b = 0 then none else some (wrap (a.tdiv b))
  | remainder => if b = 0 then none else some (a.tmod b)
  | power => some (wrap (Int.pow a b.toNat))

end Operator

inductive Sign where
  | plus
  | minus
  | not
  | flip
deriving Repr, DecidableEq

namespace Sign

def result : Sign → Int → Int
  | plus, n => n
  | minus, n => wrap (-n)
  | not, n => truth (n = 0)
  | flip, n => -n - 1

end Sign

/-- Where a division may fail, the text of the divisor is kept. -/
inductive Expression where
  | number (n : Int)
  | name (name : String)
  | signed (s : Sign) (operand : Expression)
  | binary (o : Operator) (left right : Expression) (rest : List Char)
  | choice (test yes no : Expression)
  | assign (name : String) (o : Option Operator) (value : Expression) (rest : List Char)
  /-- Counts up or down; the value is the old one or the new one. -/
  | count (name : String) (change : Int) (isOld : Bool)

/-! ### Reading -/

def isNameChar (c : Char) : Bool := c.isAlphanum || c == '_'

def numberOf (cs : List Char) : Int :=
  let digits (base : Nat) (cs : List Char) : Nat := cs.foldl (fun n c => n * base + (Number.hexValue? c).getD 0) 0
  match cs with
  | '0' :: 'x' :: cs | '0' :: 'X' :: cs => digits 16 cs
  | '0' :: cs => digits 8 cs
  | cs => digits 10 cs

/-- A name at the beginning. -/
def name? (cs : List Char) : Option (String × List Char) :=
  let name := cs.takeWhile isNameChar
  match name with
  | c :: _ => if c.isDigit then none else some (String.ofList name, cs.drop name.length)
  | [] => none

/-- A name with an assignment sign behind it. -/
def assignment? (d : Dialect) (cs : List Char) : Option (String × Option Operator × List Char) :=
  (name? cs).bind fun (name, rest) =>
    match Text.trimStart rest with
    | '=' :: '=' :: _ => none
    | '=' :: rest => some (name, none, rest)
    | rest =>
      match Operator.atStart? d rest with
      | some (o, '=' :: rest) => if o.assigns then some (name, some o, rest) else none
      | _ => none

abbrev Parsed := Except ArithmeticFault (Expression × List Char)

mutual

/-- `before` is where the token in front begins; it is blamed when nothing comes behind it. -/
def atom (d : Dialect) : (fuel : Nat) → (before : List Char) → List Char → Parsed
  | 0, before, _ => .error (.missingOperand before)
  | fuel + 1, before, cs => do
    let here := Text.trimStart cs
    let signed (s : Sign) (cs : List Char) : Parsed := do
      let (e, rest) ← atom d fuel here cs
      return (.signed s e, rest)
    match here with
    | '+' :: '+' :: cs =>
      match name? (Text.trimStart cs) with
      | some (name, rest) => return (.count name 1 false, rest)
      | none => signed .plus ('+' :: cs)
    | '-' :: '-' :: cs =>
      match name? (Text.trimStart cs) with
      | some (name, rest) => return (.count name (-1) false, rest)
      | none => signed .minus ('-' :: cs)
    | '+' :: cs => signed .plus cs
    | '-' :: cs => signed .minus cs
    | '!' :: cs => signed .not cs
    | '~' :: cs => signed .flip cs
    | '(' :: cs =>
      let (e, rest) ← whole d fuel here cs
      match Text.trimStart rest with
      | ')' :: rest => return (e, rest)
      | rest => throw (.missingOperand (if rest.isEmpty then here else rest))
    | _ =>
      let word := here.takeWhile isNameChar
      let rest := here.drop word.length
      match word with
      | [] => throw (.missingOperand (if here.isEmpty then before else here))
      | c :: _ =>
        if c.isDigit then return (.number (numberOf word), rest)
        let name := String.ofList word
        match rest with
        | '+' :: '+' :: rest => return (.count name 1 true, rest)
        | '-' :: '-' :: rest => return (.count name (-1) true, rest)
        | rest => return (.name name, rest)

/-- Operands with operators of at least the level between them. -/
def operands (d : Dialect) : (fuel : Nat) → (level : Nat) → (before : List Char) → List Char → Parsed
  | 0, _, before, _ => .error (.missingOperand before)
  | fuel + 1, level, before, cs => do
    let (e, rest) ← atom d fuel before cs
    more d fuel level e rest

def more (d : Dialect) : (fuel : Nat) → (level : Nat) → Expression → List Char → Parsed
  | 0, _, e, cs => .ok (e, cs)
  | fuel + 1, level, left, cs => do
    let here := Text.trimStart cs
    match Operator.atStart? d here with
    | none => return (left, cs)
    | some (o, after) =>
      if o.level < level then return (left, cs)
      let (right, rest) ← operands d fuel (if o = .power then o.level else o.level + 1) here after
      more d fuel level (.binary o left right (Text.trimStart after)) rest

/-- An assignment or a choice. -/
def whole (d : Dialect) : (fuel : Nat) → (before : List Char) → List Char → Parsed
  | 0, before, _ => .error (.missingOperand before)
  | fuel + 1, before, cs => do
    let here := Text.trimStart cs
    match assignment? d here with
    | some (name, o, after) =>
      let (value, rest) ← whole d fuel here after
      return (.assign name o value (Text.trimStart after), rest)
    | none =>
      let (test, rest) ← operands d fuel 0 before cs
      match Text.trimStart rest with
      | '?' :: after =>
        let (yes, rest) ← whole d fuel ('?' :: after) after
        match Text.trimStart rest with
        | ':' :: after =>
          let (no, rest) ← whole d fuel (':' :: after) after
          return (.choice test yes no, rest)
        | rest => throw (.missingOperand rest)
      | _ => return (test, rest)

end

/-- The expression that a text is; an empty one is zero. -/
def parse (d : Dialect) (cs : List Char) : Except ArithmeticFault Expression := do
  if Text.isBlank cs then return .number 0
  let (e, rest) ← whole d (8 * cs.length + 16) cs cs
  let rest := Text.trimStart rest
  if rest.isEmpty then return e else throw (.trailing rest)

/-! ### Values -/

/-- Evaluation keeps what names were given on the way, the latest first. -/
abbrev Evaluation (α : Type) := StateT (List (String × Int)) (Except ArithmeticFault) α

def compute (o : Operator) (a b : Int) (rest : List Char) : Evaluation Int :=
  match o.result? a b with
  | some n => return n
  | none => throw (.divisionByZero rest)

def give (name : String) (n : Int) : Evaluation Unit := modify ((name, n) :: ·)

def evaluate (value : String → Int) : Expression → Evaluation Int
  | .number n => return wrap n
  | .name name => look name
  | .signed s e => do return s.result (← evaluate value e)
  | .binary .or a b _ => do
    if (← evaluate value a) ≠ 0 then return 1 else return truth ((← evaluate value b) ≠ 0)
  | .binary .and a b _ => do
    if (← evaluate value a) = 0 then return 0 else return truth ((← evaluate value b) ≠ 0)
  | .binary o a b rest => do
    let a ← evaluate value a
    compute o a (← evaluate value b) rest
  | .choice test yes no => do if (← evaluate value test) ≠ 0 then evaluate value yes else evaluate value no
  | .assign name o e rest => do
    let n ← evaluate value e
    let n ← match o with
      | some o => do compute o (← look name) n rest
      | none => pure n
    give name n
    return n
  | .count name n isOld => do
    let old ← look name
    give name (wrap (old + n))
    return if isOld then old else wrap (old + n)
where
  look (name : String) : Evaluation Int := do return ((← get).lookup name).getD (value name)

end Arithmetic

end Playbook.Shell
