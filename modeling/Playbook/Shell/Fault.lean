import Playbook.Shell.Arithmetic
import Playbook.Shell.Process
/-!
# Complaints

How the two shells word what is wrong with a script.
-/

namespace Playbook.Shell

open Text (Bytes)

/-- Which redirection could not be made, and why. -/
structure RedirectFault where
  kind : RedirectKind
  name : Bytes
  fault : FileFault

/-- The two shells word it in their own ways. -/
def RedirectFault.text (d : Dialect) (f : RedirectFault) : String :=
  let name := Run.shown f.name
  match d with
  | .bash => s!"{name}: {f.fault.text}"
  | .sh =>
    let verb := if f.kind = .read then "open" else "create"
    let reason :=
      if f.fault = .noEntry then (if f.kind = .read then "No such file" else "Directory nonexistent") else f.fault.text
    s!"cannot {verb} {name}: {reason}"

def ArithmeticFault.text (d : Dialect) (expression : List Char) (f : ArithmeticFault) : String :=
  let shown := String.ofList (match d with
    | .bash => Text.trimStart expression
    | .sh => expression)
  match d, f with
  | .bash, missingOperand rest => s!"{shown}: syntax error: operand expected (error token is \"{String.ofList rest}\")"
  | .bash, trailing rest => s!"{shown}: syntax error in expression (error token is \"{String.ofList rest}\")"
  | .bash, divisionByZero rest => s!"{shown}: division by 0 (error token is \"{String.ofList rest}\")"
  | .sh, missingOperand _ => s!"arithmetic expression: expecting primary: \"{shown}\""
  | .sh, trailing _ => s!"arithmetic expression: expecting EOF: \"{shown}\""
  | .sh, divisionByZero _ => s!"arithmetic expression: division by zero: \"{shown}\""

namespace SyntaxFault

def text : Dialect → SyntaxFault → String
  | .bash, openQuote quote _ => s!"unexpected EOF while looking for matching `{quote}'"
  | .bash, unexpectedEnd _ => "syntax error: unexpected end of file"
  | .bash, unexpected token _ => s!"syntax error near unexpected token `{token}'"
  | .sh, openQuote '\x7d' _ => "Syntax error: Missing '\x7d'"
  | .sh, openQuote '\x60' _ => "Syntax error: EOF in backquote substitution"
  | .sh, openQuote .. => "Syntax error: Unterminated quoted string"
  | .sh, unexpectedEnd wanted => "Syntax error: end of file unexpected" ++ expecting wanted
  | .sh, unexpected token wanted => s!"Syntax error: \"{token}\" unexpected" ++ expecting wanted
where
  expecting : Option String → String
    | some word => s!" (expecting \"{word}\")"
    | none => ""

/-- The line that a shell blames; one of them counts the end of the script as a line. -/
def line (d : Dialect) (source : List Char) (here : Nat) (f : SyntaxFault) : Nat :=
  match d, f with
  | .bash, openQuote _ start => start
  | .bash, unexpectedEnd _ => if source.getLast? = some '\n' then here else here + 1
  | _, _ => here

def isUnexpected : SyntaxFault → Bool
  | unexpected .. => true
  | _ => false

end SyntaxFault

/-- What is said of a script that a signal ended; of some signals nothing is. -/
def signalText? (signal : Nat) : Option String :=
  match signal with
  | 1 => some "Hangup"
  | 3 => some "Quit"
  | 4 => some "Illegal instruction"
  | 5 => some "Trace/breakpoint trap"
  | 6 => some "Aborted"
  | 7 => some "Bus error"
  | 8 => some "Floating point exception"
  | 9 => some "Killed"
  | 10 => some "User defined signal 1"
  | 11 => some "Segmentation fault"
  | 12 => some "User defined signal 2"
  | 14 => some "Alarm clock"
  | 15 => some "Terminated"
  | _ => none

end Playbook.Shell
