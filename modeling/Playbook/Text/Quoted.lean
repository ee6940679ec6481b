import Playbook.Text.Printable
import Playbook.Text.Wide
/-!
# Quoted text

How a text is shown inside a message: between quotes, on one line, with everything that does not print
written as an escape.
-/

namespace Playbook.Text

/-- The lowest `width` hexadecimal digits of `n`. -/
def hexDigits : Nat → Nat → List Char
  | 0, _ => []
  | width + 1, n => hexDigits width (n / 16) ++ [Nat.digitChar (n % 16)]

/-- Double quotes are used only around a text that holds a single quote and no double quote. -/
def quoteMark (s : WideString) : Char := if s.contains (.char '\'') && !s.contains (.char '"') then '"' else '\''

/-- The number of a code point, with as few digits as there is a form for. -/
def escapePoint (p : CodePoint) : List Char :=
  if p.number < 0x100 then '\\' :: 'x' :: hexDigits 2 p.number
  else if p.number < 0x10000 then '\\' :: 'u' :: hexDigits 4 p.number
  else '\\' :: 'U' :: hexDigits 8 p.number

def quotePoint (mark : Char) : CodePoint → List Char
  | .char c =>
    if c = mark ∨ c = '\\' then ['\\', c]
    else if c = '\n' then ['\\', 'n']
    else if c = '\r' then ['\\', 'r']
    else if c = '\t' then ['\\', 't']
    else if isPrintable c then [c]
    else escapePoint c
  | p => escapePoint p

def quote (s : WideString) : List Char := quoteMark s :: s.flatMap (quotePoint (quoteMark s)) ++ [quoteMark s]

def quoted (s : WideString) : String := String.ofList (quote s)

end Playbook.Text
