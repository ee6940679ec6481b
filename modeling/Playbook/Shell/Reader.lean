import Playbook.Shell.Brace
import Playbook.Text.Lines
/-!
# Reading shell scripts

A reader that goes through the characters once and counts lines. Everything that nests is read with fuel; a
script has fewer levels than characters.
-/

namespace Playbook.Shell

structure Cursor where
  dialect : Dialect
  rest : List Char
  line : Nat

abbrev Reader (α : Type) := StateT Cursor (Except (Nat × SyntaxFault)) α

namespace Reader

/-! ### Characters -/

def fault {α : Type} (f : SyntaxFault) : Reader α := do throw ((← get).line, f)

def rest : Reader (List Char) := do return (← get).rest

def isBash : Reader Bool := do return (← get).dialect == .bash

/-- Goes on by a number of characters. -/
def skip (n : Nat) : Reader Unit :=
  modify fun c => { c with rest := c.rest.drop n, line := c.line + (c.rest.take n).countP (· == '\n') }

def isBreak (c : Char) : Bool := [' ', '\t', '\n', ';', '&', '|', '<', '>', '(', ')'].contains c

def isNameStart (c : Char) : Bool := c.isAlpha || c == '_'

def isNameChar (c : Char) : Bool := c.isAlphanum || c == '_'

/-- Blanks, line continuations and comments at the beginning. -/
def blanks : (fuel : Nat) → List Char → Nat
  | 0, _ => 0
  | fuel + 1, cs =>
    match cs with
    | ' ' :: cs | '\t' :: cs => 1 + blanks fuel cs
    | '\\' :: '\n' :: cs => 2 + blanks fuel cs
    | '#' :: cs =>
      let comment := cs.takeWhile (· ≠ '\n')
      1 + comment.length + blanks fuel (cs.drop comment.length)
    | _ => 0

def skipBlanks : Reader Unit := do
  let cs ← rest
  skip (blanks cs.length cs)

def skipLines : (fuel : Nat) → Reader Unit
  | 0 => return
  | fuel + 1 => do
    skipBlanks
    match ← rest with
    | '\n' :: _ =>
      skip 1
      skipLines fuel
    | _ => return

/-- The bare word at the cursor. -/
def bareWord : Reader String := do return String.ofList ((← rest).takeWhile (!isBreak ·))

/-- The token that is in the way. -/
def token : Reader String := do
  match ← rest with
  | '&' :: '&' :: _ => return "&&"
  | '|' :: '|' :: _ => return "||"
  | ';' :: ';' :: _ => return ";;"
  | '\n' :: _ => return "newline"
  | c :: cs => return if isBreak c then c.toString else String.ofList ((c :: cs).takeWhile (!isBreak ·))
  | [] => return ""

def unexpected {α : Type} (wanted : Option String) : Reader α := do
  if (← rest).isEmpty then fault (.unexpectedEnd wanted) else fault (.unexpected (← token) wanted)

def keyword (word : String) : Reader Unit := do
  if (← bareWord) = word then skip word.length else unexpected (some word)

/-- A single character that has to stand here. -/
def closing (c : Char) : Reader Unit := do
  if (← rest).head? = some c then skip 1 else unexpected (some c.toString)

/-! ### Parameters -/

/-- The name of a special parameter, of an argument, or of a variable. -/
def parameterName? (cs : List Char) : Option String :=
  match cs with
  | c :: _ =>
    if ['?', '$', '#', '@', '*', '!', '-'].contains c || c.isDigit then some c.toString
    else if isNameStart c then some (String.ofList (cs.takeWhile isNameChar))
    else none
  | [] => none

/-- The text of `$((…))` up to its end. -/
def arithmetic : (depth : Nat) → List Char → Option (List Char)
  | _, [] => none
  | 0, ')' :: ')' :: _ => some []
  | 0, ')' :: _ => none
  | depth + 1, ')' :: cs => (arithmetic depth cs).map (')' :: ·)
  | depth, '(' :: cs => (arithmetic (depth + 1) cs).map ('(' :: ·)
  | depth, c :: cs => (arithmetic depth cs).map (c :: ·)

/-- The sign behind a name in braces, and what it makes of the pieces behind it. -/
def form? (cs : List Char) : Option (Nat × (Word → Form)) :=
  match cs with
  | ':' :: '-' :: _ => some (2, .otherwise true false)
  | ':' :: '=' :: _ => some (2, .otherwise true true)
  | ':' :: '+' :: _ => some (2, .instead true)
  | ':' :: '?' :: _ => some (2, .required true)
  | '-' :: _ => some (1, .otherwise false false)
  | '=' :: _ => some (1, .otherwise false true)
  | '+' :: _ => some (1, .instead false)
  | '?' :: _ => some (1, .required false)
  | '%' :: '%' :: _ => some (2, .trim true true)
  | '%' :: _ => some (1, .trim true false)
  | '#' :: '#' :: _ => some (2, .trim false true)
  | '#' :: _ => some (1, .trim false false)
  | _ => none

/-! ### Words and commands -/

/-- The assignment that a bare word begins. -/
def assignment? (cs : List Char) : Option String :=
  let name := cs.takeWhile isNameChar
  match name, cs.drop name.length with
  | first :: _, '=' :: _ => if isNameStart first then some (String.ofList name) else none
  | _, _ => none

/-- The name of a function that begins here, and the length of its head. -/
def functionHead? (cs : List Char) : Option (String × Nat) :=
  let name := cs.takeWhile isNameChar
  let behind := cs.drop name.length
  let afterName := behind.dropWhile (· == ' ')
  match afterName with
  | '(' :: inner =>
    match inner.dropWhile (· == ' ') with
    | ')' :: after => if name.isEmpty then none else some (String.ofList name, cs.length - after.length)
    | _ => none
  | _ => none

/-- The head of a redirection. Both channels may be turned at once, and a text below may be indented. -/
structure RedirectHead where
  length : Nat
  channel : Channel
  kind : RedirectKind
  isForBoth : Bool
  isIndented : Bool

def redirect? (d : Dialect) (cs : List Char) : Option RedirectHead :=
  match cs with
  | '0' :: '<' :: _ => some ⟨2, .input, .read, false, false⟩
  | '1' :: '>' :: cs => outward 1 .output cs
  | '2' :: '>' :: cs => outward 1 .error cs
  | '>' :: cs => outward 0 .output cs
  | '&' :: '>' :: '>' :: _ => if d = .bash then some ⟨3, .output, .append, true, false⟩ else none
  | '&' :: '>' :: _ => if d = .bash then some ⟨2, .output, .write, true, false⟩ else none
  | '<' :: '<' :: '-' :: _ => some ⟨3, .input, .text, false, true⟩
  | '<' :: '<' :: _ => some ⟨2, .input, .text, false, false⟩
  | '<' :: _ => some ⟨1, .input, .read, false, false⟩
  | _ => none
where
  outward (digits : Nat) (channel : Channel) : List Char → Option RedirectHead
    | '>' :: _ => some ⟨digits + 2, channel, .append, false, false⟩
    | '&' :: _ => some ⟨digits + 2, channel, .duplicate, false, false⟩
    | '|' :: _ => some ⟨digits + 2, channel, .write, false, false⟩
    | _ => some ⟨digits + 1, channel, .write, false, false⟩

/-- Takes the lines of a text that is written below its command out of the script. -/
def takeTextBelow (delimiter : List Char) (isIndented : Bool) : Reader (List Char) := do
  let c ← get
  let line := c.rest.takeWhile (· ≠ '\n')
  let shown (l : List Char) : List Char := if isIndented then l.dropWhile (· == '\t') else l
  let below := Text.rawLines (c.rest.drop (line.length + 1))
  let text := below.takeWhile fun l => shown l ≠ delimiter
  let after := below.drop (text.length + 1)
  set ({ c with rest := line ++ '\n' :: Text.joinLines after } : Cursor)
  return text.flatMap fun l => shown l ++ ['\n']

/-- Words that end a list of commands, and which are commands nowhere. -/
def closingWords : List String := ["then", "else", "elif", "fi", "do", "done", "esac", "\x7d"]

mutual

/-- The pieces of what a dollar sign begins. -/
def dollar : (fuel : Nat) → (isQuoted : Bool) → Reader Word
  | 0, _ => fault (.unexpectedEnd none)
  | fuel + 1, isQuoted => do
    match ← rest with
    | '$' :: '(' :: '(' :: cs =>
      match arithmetic 0 cs with
      | some expression =>
        skip 3
        let pieces ← within fuel expression
        skip 2
        return [.number pieces isQuoted]
      | none => fault (.unexpectedEnd none)
    | '$' :: '(' :: _ =>
      skip 2
      skipLines fuel
      let body ← if (← rest).head? = some ')' then pure [] else commandList fuel
      closing ')'
      return [.output body isQuoted]
    | '$' :: '\x7b' :: cs =>
      let start := (← get).line
      let text := cs.takeWhile (· ≠ '\x7d')
      match cs, parameterName? cs with
      | '#' :: name@(c :: _), _ =>
        match parameterName? name with
        | some name =>
          if c = '\x7d' then pure () else skip (3 + name.length)
          if (← rest).head? = some '\x7d' then
            skip 1
            return [.parameter name .length isQuoted]
          else bad text isQuoted
        | none =>
          skip 4
          return [.parameter "#" .value isQuoted]
      | _, some name =>
        skip (2 + name.length)
        match ← rest with
        | [] => fault (.openQuote '\x7d' start)
        | '\x7d' :: _ =>
          skip 1
          return [.parameter name .value isQuoted]
        | cs =>
          match form? cs with
          | some (length, form) =>
            skip length
            return [.parameter name (form (← braced fuel start isQuoted)) isQuoted]
          | none => bad text isQuoted
      | _, none => bad text isQuoted
    | '$' :: cs =>
      match parameterName? cs with
      | some name =>
        skip (1 + name.length)
        return [.parameter name .value isQuoted]
      | none =>
        skip 1
        return [.literal ['$'] true]
    | _ => return []
where
  /-- Passes the rest of a form that there is none of. -/
  bad (text : List Char) (isQuoted : Bool) : Reader Word := do
    let left := (← rest).takeWhile (· ≠ '\x7d')
    skip (left.length + 1)
    return [.parameter "" (.unknown text) isQuoted]

/-- The commands between two back quotes. -/
def backQuoted : (fuel : Nat) → (isQuoted : Bool) → Reader Piece
  | 0, _ => fault (.unexpectedEnd none)
  | fuel + 1, isQuoted => do
    let c ← get
    let cs := c.rest.drop 1
    let inner := cs.takeWhile (· ≠ '\x60')
    skip (inner.length + 2)
    if inner.length = cs.length then fault (.openQuote '\x60' c.line)
    match (commandList fuel).run { c with rest := inner } with
    | .ok (body, _) => return .output body isQuoted
    | .error e => throw e

/-- The pieces of a text in which only dollar signs and back quotes are special. -/
def textPieces : (fuel : Nat) → List Char → Reader Word
  | 0, _ => fault (.unexpectedEnd none)
  | fuel + 1, text => do
    match (quoted fuel 0 true).run { (← get) with rest := text } with
    | .ok (pieces, _) => return pieces
    | .error e => throw e

/-- The pieces of the text that is next. -/
def within : (fuel : Nat) → List Char → Reader Word
  | 0, _ => fault (.unexpectedEnd none)
  | fuel + 1, text => do
    let pieces ← textPieces fuel text
    skip text.length
    return pieces

/-- Everything up to the closing quote, or to the end if there is none. -/
def quoted : (fuel : Nat) → (start : Nat) → (isOpenEnded : Bool) → Reader Word
  | 0, _, _ => fault (.unexpectedEnd none)
  | fuel + 1, start, isOpenEnded => do
    match ← rest with
    | [] => if isOpenEnded then return [] else fault (.openQuote '"' start)
    | c :: cs =>
      if c = '"' ∧ !isOpenEnded then
        skip 1
        return []
      else if c = '$' then
        let pieces ← dollar fuel true
        return pieces ++ (← quoted fuel start isOpenEnded)
      else if c = '\x60' then
        let piece ← backQuoted fuel true
        return piece :: (← quoted fuel start isOpenEnded)
      else match c, cs with
        | '\\', '\n' :: _ =>
          skip 2
          quoted fuel start isOpenEnded
        | '\\', d :: _ =>
          skip 2
          let kept := if ['$', '\x60', '"', '\\'].contains d then [d] else ['\\', d]
          return .literal kept true :: (← quoted fuel start isOpenEnded)
        | _, _ =>
          skip 1
          return .literal [c] true :: (← quoted fuel start isOpenEnded)

/-- One piece of a word; some characters stand for themselves only within quotes. -/
def piece : (fuel : Nat) → (isQuoted : Bool) → Reader Word
  | 0, _ => fault (.unexpectedEnd none)
  | fuel + 1, isQuoted => do
    let start := (← get).line
    match ← rest with
    | '\'' :: cs =>
      if isQuoted then
        skip 1
        return [.literal ['\''] true]
      let inner := cs.takeWhile (· ≠ '\'')
      skip (inner.length + 2)
      if inner.length = cs.length then fault (.openQuote '\'' start)
      return [.literal inner true]
    | '"' :: _ =>
      skip 1
      let inner ← quoted fuel start false
      return match inner with
        | [.parameter "@" .value true] => inner
        | _ => .literal [] true :: inner
    | '\\' :: '\n' :: _ =>
      skip 2
      return []
    | '\\' :: c :: _ =>
      skip 2
      return [.literal [c] true]
    | '$' :: _ => dollar fuel isQuoted
    | '\x60' :: _ => return [← backQuoted fuel isQuoted]
    | c :: _ =>
      skip 1
      return [.literal [c] isQuoted]
    | [] => return []

/-- The pieces up to a closing brace. -/
def braced : (fuel : Nat) → (start : Nat) → (isQuoted : Bool) → Reader Word
  | 0, _, _ => fault (.unexpectedEnd none)
  | fuel + 1, start, isQuoted => do
    match ← rest with
    | [] => fault (.openQuote '\x7d' start)
    | '\x7d' :: _ =>
      skip 1
      return []
    | _ =>
      let here ← piece fuel isQuoted
      return here ++ (← braced fuel start isQuoted)

def word : (fuel : Nat) → Reader Word
  | 0 => fault (.unexpectedEnd none)
  | fuel + 1 => do
    match ← rest with
    | [] => return []
    | c :: _ =>
      if isBreak c then return []
      let here ← piece fuel false
      return here ++ (← word fuel)

def redirects : (fuel : Nat) → Reader (List Redirect)
  | 0 => fault (.unexpectedEnd none)
  | fuel + 1 => do
    skipBlanks
    let c ← get
    match redirect? c.dialect c.rest with
    | none => return []
    | some head =>
      skip head.length
      skipBlanks
      let target ← word fuel
      if target.isEmpty then
        if c.dialect = .bash ∧ (← rest).isEmpty then fault (.unexpected "newline" none) else unexpected none
      let target ← if head.kind = .text then
          let delimiter := target.flatMap fun | .literal cs _ => cs | _ => []
          let text ← takeTextBelow delimiter head.isIndented
          if target.any (·.isQuoted) then pure [.literal text true] else textPieces fuel text
        else pure target
      let both : List Redirect := if head.isForBoth then [.mk .error .duplicate [.literal ['1'] false]] else []
      return .mk head.channel head.kind target :: both ++ (← redirects fuel)

/-- The words and redirections of a simple command. -/
def simple : (fuel : Nat) → Reader (List (String × Word) × List Word × List Redirect)
  | 0 => fault (.unexpectedEnd none)
  | fuel + 1 => do
    let here ← redirects fuel
    match ← rest with
    | [] => return ([], [], here)
    | c :: cs =>
      if isBreak c then return ([], [], here)
      else match assignment? (c :: cs) with
        | some name =>
          skip (name.length + 1)
          let value ← word fuel
          let (assignments, words, redirects) ← simple fuel
          return ((name, value) :: assignments, words, here ++ redirects)
        | none =>
          let (words, redirects) ← arguments fuel
          return ([], words, here ++ redirects)

def arguments : (fuel : Nat) → Reader (List Word × List Redirect)
  | 0 => fault (.unexpectedEnd none)
  | fuel + 1 => do
    let here ← redirects fuel
    match ← rest with
    | [] => return ([], here)
    | c :: _ =>
      if isBreak c then return ([], here)
      let first ← word fuel
      let all := if ← isBash then Brace.expand first else [first]
      let (words, redirects) ← arguments fuel
      return (all ++ words, here ++ redirects)

/-- The rest of a choice after its first test. -/
def branches : (fuel : Nat) → Reader (List Command × List Command)
  | 0 => fault (.unexpectedEnd none)
  | fuel + 1 => do
    keyword "then"
    let body ← commandsBefore fuel "fi"
    match ← bareWord with
    | "elif" =>
      skip 4
      let test ← commandsBefore fuel "then"
      let (body', otherwise) ← branches fuel
      return (body, [.choice test body' otherwise])
    | "else" =>
      skip 4
      let otherwise ← commandsBefore fuel "fi"
      keyword "fi"
      return (body, otherwise)
    | _ =>
      keyword "fi"
      return (body, [])

/-- The patterns of a branch up to the closing bracket. -/
def patterns : (fuel : Nat) → Reader (List Word)
  | 0 => fault (.unexpectedEnd none)
  | fuel + 1 => do
    skipBlanks
    let first ← word fuel
    if first.isEmpty then unexpected (some ")")
    skipBlanks
    if (← rest).head? = some '|' then
      skip 1
      return first :: (← patterns fuel)
    closing ')'
    return [first]

/-- The branches of a selection up to its end. -/
def cases : (fuel : Nat) → Reader (List Branch)
  | 0 => fault (.unexpectedEnd none)
  | fuel + 1 => do
    skipLines fuel
    if (← bareWord) = "esac" then
      skip 4
      return []
    if (← rest).head? = some '(' then skip 1
    let fitting ← patterns fuel
    skipLines fuel
    let body ← match ← rest with
      | ';' :: ';' :: _ => pure []
      | _ => if (← bareWord) = "esac" then pure [] else commandsBefore fuel ";;"
    skipLines fuel
    match ← rest with
    | ';' :: ';' :: _ => skip 2
    | _ => if (← bareWord) ≠ "esac" then unexpected (some ";;")
    return .mk fitting body :: (← cases fuel)

def command : (fuel : Nat) → Reader Command
  | 0 => fault (.unexpectedEnd none)
  | fuel + 1 => do
    skipBlanks
    let line := (← get).line
    let wrap (c : Command) : Reader Command := do
      let targets ← redirects fuel
      return if targets.isEmpty then c else .group line false [c] targets
    match ← bareWord with
    | "!" =>
      skip 1
      return .not (← pipeline fuel)
    | "if" =>
      skip 2
      let test ← commandsBefore fuel "then"
      let (body, otherwise) ← branches fuel
      wrap (.choice test body otherwise)
    | "while" =>
      skip 5
      let test ← commandsBefore fuel "do"
      let body ← loopBody fuel
      wrap (.loop true test body)
    | "until" =>
      skip 5
      let test ← commandsBefore fuel "do"
      let body ← loopBody fuel
      wrap (.loop false test body)
    | "for" =>
      skip 3
      skipBlanks
      let name ← bareWord
      skip name.length
      skipLines fuel
      let words ← if (← bareWord) = "in" then do
          skip 2
          pure (← arguments fuel).1
        else pure [[.parameter "@" .value true]]
      if (← rest).head? = some ';' then skip 1
      skipLines fuel
      let body ← loopBody fuel
      wrap (.each name words body)
    | "case" =>
      skip 4
      skipBlanks
      let subject ← word fuel
      skipLines fuel
      keyword "in"
      let all ← cases fuel
      wrap (.select subject all)
    | "[[" =>
      if !(← isBash) then
        let (assignments, words, targets) ← simple fuel
        return .simple line assignments words targets
      skip 2
      let words ← condition fuel
      return .simple line [] ([.literal "[[".toList true] :: words) (← redirects fuel)
    | "\x7b" =>
      skip 1
      let body ← commandsBefore fuel "\x7d"
      keyword "\x7d"
      return .group line false body (← redirects fuel)
    | "" =>
      match ← rest with
      | '(' :: '(' :: cs =>
        match ← isBash, arithmetic 0 cs with
        | true, some expression =>
          skip 2
          let pieces ← within fuel expression
          skip 2
          wrap (.compute line pieces)
        | _, _ => subshell fuel line
      | '(' :: _ => subshell fuel line
      | _ =>
        let (assignments, words, targets) ← simple fuel
        if targets.isEmpty then unexpected none
        return .simple line assignments words targets
    | name =>
      if closingWords.contains name then unexpected none
      let isFunction := name == "function" && (← isBash)
      if isFunction then
        skip name.length
        skipBlanks
      match functionHead? (← rest) with
      | some (name, length) =>
        skip length
        skipLines fuel
        return .define name (← command fuel)
      | none =>
        if isFunction then
          let name ← bareWord
          skip name.length
          skipLines fuel
          return .define name (← command fuel)
        let (assignments, words, targets) ← simple fuel
        return .simple line assignments words targets

/-- The words of a test between double brackets, where operators are words too and nothing is split. -/
def condition : (fuel : Nat) → Reader (List Word)
  | 0 => fault (.unexpectedEnd none)
  | fuel + 1 => do
    skipLines fuel
    let whole (text : String) : Reader (List Word) := do
      skip text.length
      return [.literal text.toList true] :: (← condition fuel)
    match ← rest with
    | ']' :: ']' :: _ =>
      skip 2
      return [[.literal "]]".toList true]]
    | '&' :: '&' :: _ => whole "&&"
    | '|' :: '|' :: _ => whole "||"
    | '<' :: _ => whole "<"
    | '>' :: _ => whole ">"
    | '(' :: _ => whole "("
    | ')' :: _ => whole ")"
    | _ =>
      let pieces ← word fuel
      if pieces.isEmpty then unexpected none
      return (Piece.literal [] true :: pieces.map (·.quoted)) :: (← condition fuel)

/-- Commands in brackets. -/
def subshell : (fuel : Nat) → (line : Nat) → Reader Command
  | 0, _ => fault (.unexpectedEnd none)
  | fuel + 1, line => do
    skip 1
    let body ← commandsBefore fuel ")"
    closing ')'
    return .group line true body (← redirects fuel)

def loopBody : (fuel : Nat) → Reader (List Command)
  | 0 => fault (.unexpectedEnd none)
  | fuel + 1 => do
    keyword "do"
    let body ← commandsBefore fuel "done"
    keyword "done"
    return body

def pipeline : (fuel : Nat) → Reader Command
  | 0 => fault (.unexpectedEnd none)
  | fuel + 1 => do
    let left ← command fuel
    skipBlanks
    match ← rest with
    | '|' :: '|' :: _ => return left
    | '|' :: _ =>
      skip 1
      skipLines fuel
      return .pipe left (← pipeline fuel)
    | _ => return left

/-- Goes on with a chain of commands that depend on the success of what came before. -/
def chain : (fuel : Nat) → Command → Reader Command
  | 0, _ => fault (.unexpectedEnd none)
  | fuel + 1, left => do
    skipBlanks
    match ← rest with
    | '&' :: '&' :: _ =>
      skip 2
      skipLines fuel
      chain fuel (.both left (← pipeline fuel))
    | '|' :: '|' :: _ =>
      skip 2
      skipLines fuel
      chain fuel (.either left (← pipeline fuel))
    | _ => return left

/-- Commands up to a closing word or bracket; at least one. -/
def commandList : (fuel : Nat) → Reader (List Command)
  | 0 => fault (.unexpectedEnd none)
  | fuel + 1 => do
    skipLines fuel
    let first ← chain fuel (← pipeline fuel)
    match ← rest with
    | ';' :: ';' :: _ => return [first]
    | ';' :: _ | '&' :: _ => skip 1
    | _ => pure ()
    skipLines fuel
    let next ← bareWord
    match ← rest with
    | [] | ')' :: _ | ';' :: ';' :: _ => return [first]
    | _ => if closingWords.contains next then return [first] else return first :: (← commandList fuel)

/-- Commands that have to end with the word; if the script ends before, that word is missed. -/
def commandsBefore : (fuel : Nat) → (word : String) → Reader (List Command)
  | 0, _ => fault (.unexpectedEnd none)
  | fuel + 1, word => do
    skipLines fuel
    if (← rest).isEmpty then fault (.unexpectedEnd (some word))
    let body ← commandList fuel
    if (← rest).isEmpty then fault (.unexpectedEnd (some word))
    return body

end

/-- The commands up to the end of the line. -/
def commandLine : (fuel : Nat) → Reader (List Command)
  | 0 => fault (.unexpectedEnd none)
  | fuel + 1 => do
    let first ← chain fuel (← pipeline fuel)
    match ← rest with
    | ';' :: ';' :: _ => unexpected none
    | ';' :: _ | '&' :: _ => skip 1
    | [] | '\n' :: _ => pure ()
    | _ => unexpected none
    skipBlanks
    match ← rest with
    | [] | '\n' :: _ => return [first]
    | _ => return first :: (← commandLine fuel)

def scriptLines : (fuel : Nat) → Cursor → Script
  | 0, _ => ⟨[], none⟩
  | fuel + 1, cursor =>
    match (skipLines (cursor.rest.length + 1)).run cursor with
    | .error e => ⟨[], some e⟩
    | .ok (_, cursor) =>
      if cursor.rest.isEmpty then ⟨[], none⟩
      else match (commandLine (8 * cursor.rest.length + 8)).run cursor with
        | .error e => ⟨[], some e⟩
        | .ok (line, cursor) =>
          let rest := scriptLines fuel cursor
          { rest with lines := line :: rest.lines }

end Reader

def Script.read (d : Dialect) (cs : List Char) (line : Nat) : Script := Reader.scriptLines (cs.length + 1) ⟨d, cs, line⟩

end Playbook.Shell
