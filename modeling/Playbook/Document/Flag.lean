import Playbook.Document.Token
/-!
# Flags

A flag is a name with values, `--name value...`, or a list of values without a name. Each flag owns the
tokens up to the next `--name`; tokens in front of the first one belong to no flag.
-/

namespace Playbook

/-- Where a token stands in its document: lines count from one, columns from zero. -/
structure Position where
  line : Nat
  start : Nat
  length : Nat
deriving Repr, DecidableEq

/-- The flag without a name holds positional values. -/
structure Flag where
  name : String
  values : List String
  position : Option Position
  valuePositions : List Position
deriving Repr, DecidableEq

def Flag.isPositional (f : Flag) : Bool := f.name.isEmpty

/-- The tokens that make up one flag; positional values have no head. -/
structure FlagTokens where
  head : Option (Token × List Char)
  values : List Token
deriving Repr, DecidableEq

namespace FlagTokens

/-- Starts a flag at every `--name`. The first component holds the tokens in front of the first flag. -/
def split : List Token → List Token × List FlagTokens
  | [] => ([], [])
  | t :: ts =>
    let (values, flags) := split ts
    match t.flagName? with
    | some name => ([], ⟨some (t, name), values⟩ :: flags)
    | none => (t :: values, flags)

def named (tokens : List Token) : List FlagTokens := (split tokens).2

/-- Named flags after `--`, nothing after a single dash, and one flag without a name after anything else. -/
def ofText (cs : List Char) : List FlagTokens :=
  match cs with
  | '-' :: '-' :: _ => named (Token.scan cs)
  | '-' :: _ => []
  | _ =>
    match Token.scan cs with
    | [] => []
    | tokens => [⟨none, tokens⟩]

def tokens (f : FlagTokens) : List Token := (f.head.map (·.1)).toList ++ f.values

/-- The flag, each of its tokens placed by `place`. -/
def flag (place : Token → Option Position) (f : FlagTokens) : Flag where
  name := String.ofList ((f.head.map (·.2)).getD [])
  values := f.values.map (String.ofList ·.value)
  position := f.head.bind fun (t, _) => place t
  valuePositions := f.values.filterMap place

/-- The flag in a text that begins at a column of a line. -/
def placed (line column : Nat) (f : FlagTokens) : Flag := f.flag fun t => some ⟨line, column + t.start, t.length⟩

end FlagTokens

/-! ### Flags at a given place

A caller may name any place for a text. A position has a line from one on and a column from zero on. -/

inductive PositionFault where
  | lineBelowOne
  | startBelowZero
deriving Repr, DecidableEq

namespace Flag

/-- A line, where known, and the column at which the text begins. -/
structure Origin where
  line : Option Int
  column : Int

def Origin.faults (o : Origin) (t : Token) : List PositionFault :=
  match o.line with
  | none => []
  | some line =>
    (if line < 1 then [.lineBelowOne] else []) ++ (if o.column + t.start < 0 then [.startBelowZero] else [])

def Origin.place (o : Origin) (t : Token) : Option Position :=
  o.line.map fun line => ⟨line.toNat, (o.column + t.start).toNat, t.length⟩

/-- The flags, or the faults of the first token that cannot be placed. -/
def placeAll (o : Origin) (flags : List FlagTokens) : Except (List PositionFault) (List Flag) :=
  match ((flags.flatMap FlagTokens.tokens).map o.faults).find? (!·.isEmpty) with
  | some faults => .error faults
  | none => .ok (flags.map (·.flag o.place))

def parse (text : String) (o : Origin) : Except (List PositionFault) (List Flag) :=
  placeAll o (FlagTokens.named (Token.scan text.toList))

def parseAny (text : String) (o : Origin) : Except (List PositionFault) (List Flag) :=
  placeAll o (FlagTokens.ofText text.toList)

end Flag

end Playbook
