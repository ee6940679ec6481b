import Playbook.Text.Blank
/-!
# Shell scripts

The commands of a shell script and the words they are made of. A word is a row of pieces, some of which stand
for text that only the running script knows.
-/

namespace Playbook.Shell

/-- The shells read nearly the same scripts; they differ in what some commands print. -/
inductive Dialect where
  | bash
  | sh
deriving Repr, DecidableEq

inductive Channel where
  | input
  | output
  | error
deriving Repr, DecidableEq

inductive RedirectKind where
  | read
  | write
  | append
  | duplicate
  | text
deriving Repr, DecidableEq

mutual

inductive Piece where
  /-- Characters as they stand. -/
  | literal (cs : List Char) (isQuoted : Bool)
  | parameter (name : String) (form : Form) (isQuoted : Bool)
  | output (commands : List Command) (isQuoted : Bool)
  | number (expression : List Piece) (isQuoted : Bool)

/-- What is made of the value of a parameter. -/
inductive Form where
  | value
  | length
  /-- Another text where there is no value, which the parameter may keep; an empty value may count as none. -/
  | otherwise (orEmpty keeps : Bool) (pieces : List Piece)
  /-- The script ends where there is no value; the text says why. -/
  | required (orEmpty : Bool) (pieces : List Piece)
  /-- Another text where there is a value. -/
  | instead (orEmpty : Bool) (pieces : List Piece)
  /-- The value without what the pattern fits at its beginning or its end. -/
  | trim (atEnd longest : Bool) (pieces : List Piece)
  /-- A form that there is none of. -/
  | unknown (text : List Char)

inductive Redirect where
  | mk (channel : Channel) (kind : RedirectKind) (target : List Piece)

inductive Command where
  | simple (line : Nat) (assignments : List (String × List Piece)) (words : List (List Piece)) (redirects : List Redirect)
  | not (command : Command)
  | pipe (left right : Command)
  | both (left right : Command)
  | either (left right : Command)
  | choice (test body otherwise : List Command)
  | loop (whileTrue : Bool) (test body : List Command)
  | each (name : String) (words : List (List Piece)) (body : List Command)
  | select (word : List Piece) (branches : List Branch)
  | define (name : String) (body : Command)
  | compute (line : Nat) (expression : List Piece)
  | group (line : Nat) (isolated : Bool) (body : List Command) (redirects : List Redirect)

/-- The commands for the texts that one of the patterns fits. -/
inductive Branch where
  | mk (patterns : List (List Piece)) (body : List Command)

end

abbrev Word := List Piece

namespace Piece

/-- The single character that may have a special meaning. -/
def char? : Piece → Option Char
  | literal [c] false => some c
  | _ => none

def plain (c : Char) : Piece := literal [c] false

def isQuoted : Piece → Bool
  | literal _ q | parameter _ _ q | output _ q | number _ q => q

/-- The piece as it would be between quotes. -/
def quoted : Piece → Piece
  | literal cs _ => literal cs true
  | parameter name form _ => parameter name form true
  | output commands _ => output commands true
  | number expression _ => number expression true

end Piece

/-- Why a script cannot be read. The shells tell differently where a quote stands open. -/
inductive SyntaxFault where
  | openQuote (quote : Char) (start : Nat)
  | unexpectedEnd (wanted : Option String)
  | unexpected (token : String) (wanted : Option String)
deriving Repr, DecidableEq

/-- The commands of a script line by line, up to a line that cannot be read. -/
structure Script where
  lines : List (List Command)
  fault : Option (Nat × SyntaxFault)

end Playbook.Shell
