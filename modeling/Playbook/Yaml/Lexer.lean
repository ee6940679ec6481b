import Playbook.Yaml.Token
/-!
# Reading YAML tokens

Indentation is turned into tokens: a collection starts where a line is indented deeper than the one around it
and ends where it is not. That something was a key shows only when the colon behind it is reached; until then
the place in front of it is kept, for the tokens that announce a key.
-/

namespace Playbook.Yaml

/-- Something that may turn out to be a key. -/
structure PendingKey where
  /-- How many tokens stand in front of it. -/
  place : Nat
  isRequired : Bool
  line : Nat
  column : Nat
  offset : Nat
deriving Repr

structure Lexer where
  source : Source
  /-- The last token first. -/
  tokens : List Token
  count : Nat
  /-- The columns of the open block collections, the innermost first. -/
  indents : List Nat
  /-- What may be a key at each level of brackets, the innermost first; the last level is outside all brackets. -/
  keys : List (Option PendingKey)
  /-- Whether a key may start here. -/
  allowsKey : Bool

namespace Lexer

def ofText (cs : List Char) : Lexer := ⟨.ofText cs, [], 0, [], [none], true⟩

def isInFlow (l : Lexer) : Bool := l.keys.length ≠ 1

/-- The column that lines of the innermost collection are deeper than, plus one. -/
def margin (l : Lexer) : Nat := (l.indents.head?.map (· + 1)).getD 0

def emit (l : Lexer) (t : Token) : Lexer := { l with tokens := t :: l.tokens, count := l.count + 1 }

/-- Puts a token in front of the tokens from a place on. -/
def emitAt (l : Lexer) (place : Nat) (t : Token) : Lexer :=
  let after := l.count - place
  { l with tokens := l.tokens.take after ++ t :: l.tokens.drop after, count := l.count + 1 }

def moveTo (l : Lexer) (s : Source) : Lexer := { l with source := s }

def allow (l : Lexer) (b : Bool) : Lexer := { l with allowsKey := b }

/-! ### Indentation -/

/-- Ends the block collections that are indented deeper than lines of the margin. -/
def unwind (l : Lexer) (margin : Nat) : Lexer :=
  if l.isInFlow then l
  else
    let (ended, left) := l.indents.span (margin ≤ ·)
    { l with
      tokens := ended.map (fun _ => Token.blockEnd) ++ l.tokens
      count := l.count + ended.length
      indents := left }

/-- Whether a collection starts in the column, which then is its own. -/
def indent (l : Lexer) (column : Nat) : Lexer × Bool :=
  if l.margin ≤ column then ({ l with indents := column :: l.indents }, true) else (l, false)

/-! ### Keys -/

/-- A key has to fit into a line and must not be longer than this. -/
def keyLimit : Nat := 1024

def isStale (s : Source) (k : PendingKey) : Bool := k.line ≠ s.line || k.offset + keyLimit < s.offset

def dropStale (l : Lexer) : Except Fault Lexer :=
  if l.keys.any fun k => k.any fun k => isStale l.source k && k.isRequired then .error .malformed
  else .ok { l with keys := l.keys.map fun k => k.filter (!isStale l.source ·) }

/-- Gives up what might have been a key at this level. -/
def dropKey (l : Lexer) : Except Fault Lexer :=
  match l.keys with
  | some k :: rest => if k.isRequired then .error .malformed else .ok { l with keys := none :: rest }
  | _ => .ok l

/-- What starts here may be a key. -/
def noteKey (l : Lexer) : Except Fault Lexer := do
  if !l.allowsKey then return l
  let l ← l.dropKey
  let s := l.source
  let isRequired := !l.isInFlow && l.indents.head? == some s.column
  return { l with keys := some ⟨l.count, isRequired, s.line, s.column, s.offset⟩ :: l.keys.drop 1 }

/-! ### Tokens -/

def toNextToken : (fuel : Nat) → Lexer → Lexer
  | 0, l => l
  | fuel + 1, l =>
    let s := l.source.skipBlanks
    let s := if s.startsWith '#' then s.skipWhile (!isBreak ·) else s
    match s.lineBreak? with
    | some (_, s) => toNextToken fuel { l with source := s, allowsKey := l.allowsKey || !l.isInFlow }
    | none => l.moveTo s

/-- Something that stands outside all block collections and takes up `length` characters. -/
def outermost (l : Lexer) (t : Token) (length : Nat) : Except Fault Lexer := do
  let l ← (l.unwind 0).dropKey
  return ((l.allow false).moveTo (l.source.skip length)).emit t

def fetchDirective (l : Lexer) : Except Fault Lexer := do
  let l ← (l.unwind 0).dropKey
  let (t, s) ← l.source.directive
  return ((l.allow false).moveTo s).emit t

def openFlow (l : Lexer) (t : Token) : Except Fault Lexer := do
  let l ← l.noteKey
  return ({ l with keys := none :: l.keys, allowsKey := true, source := l.source.step }).emit t

def closeFlow (l : Lexer) (t : Token) : Except Fault Lexer := do
  if !l.isInFlow then throw .malformed
  let l ← l.dropKey
  return ({ l with keys := l.keys.drop 1, allowsKey := false, source := l.source.step }).emit t

def fetchComma (l : Lexer) : Except Fault Lexer := do
  let l ← l.dropKey
  return ((l.allow true).moveTo l.source.step).emit .comma

/-- Starts a collection in the present column unless it has started already. -/
def startBlock (l : Lexer) (t : Token) : Except Fault Lexer :=
  if l.isInFlow then .ok l
  else if !l.allowsKey then .error .malformed
  else
    let (l, isNew) := l.indent l.source.column
    .ok (if isNew then l.emit t else l)

def fetchEntry (l : Lexer) : Except Fault Lexer := do
  let l ← (← l.startBlock .sequenceStart).dropKey
  return ((l.allow true).moveTo l.source.step).emit .entry

def fetchKey (l : Lexer) : Except Fault Lexer := do
  let l ← (← l.startBlock .mappingStart).dropKey
  return ((l.allow !l.isInFlow).moveTo l.source.step).emit .key

/-- The value of a key that was noted, or a value without a key. -/
def fetchValue (l : Lexer) : Except Fault Lexer := do
  match l.keys with
  | some k :: rest =>
    let l := ({ l with keys := none :: rest }).emitAt k.place .key
    let (l, isNew) := if l.isInFlow then (l, false) else l.indent k.column
    let l := if isNew then l.emitAt k.place .mappingStart else l
    return ((l.allow false).moveTo l.source.step).emit .value
  | _ =>
    let l ← (← l.startBlock .mappingStart).dropKey
    return ((l.allow !l.isInFlow).moveTo l.source.step).emit .value

/-- A token that may start a key but ends in front of a place where another key may start. -/
def fetchWith (l : Lexer) (read : Source → Except Fault (Token × Source)) : Except Fault Lexer := do
  let l ← l.noteKey
  let (t, s) ← read l.source
  return ((l.allow false).moveTo s).emit t

def fetchAnchor (l : Lexer) (make : String → Token) : Except Fault Lexer :=
  l.fetchWith fun s => do
    let (name, s) ← s.anchorName
    return (make name, s)

def fetchQuoted (l : Lexer) (quote : Char) : Except Fault Lexer :=
  l.fetchWith fun s => do
    let (text, s) ← s.quoted quote
    return (.scalar text false, s)

def fetchBlockScalar (l : Lexer) (isFolded : Bool) : Except Fault Lexer := do
  let l ← l.dropKey
  let (text, s) ← l.source.blockScalar isFolded l.margin
  return ((l.allow true).moveTo s).emit (.scalar (.ofChars text) false)

def fetchPlain (l : Lexer) : Except Fault Lexer := do
  let l ← l.noteKey
  let (text, s, crossed) := l.source.plain l.isInFlow l.margin
  return ((l.allow crossed).moveTo s).emit (.scalar (.ofChars text) true)

def startsPlain (isInFlow : Bool) : List Char → Bool
  | [] => false
  | c :: cs =>
    !(isGap c || "-?:,[]\x7b\x7d#&*!|>'\"%@\x60".toList.contains c)
      || (!endsWord cs && (c == '-' || (!isInFlow && (c == '?' || c == ':'))))

/-- Moves to the next token and ends what its place ends. -/
def prepare (l : Lexer) : Except Fault Lexer := do
  let l ← (l.toNextToken (l.source.rest.length + 1)).dropStale
  return l.unwind (l.source.column + 1)

/-- Reads the token that starts with `c`, and adds those that its place calls for. -/
def fetch (l : Lexer) (c : Char) : Except Fault Lexer :=
  let s := l.source
  let isFirst := s.column == 0
  let isMark := endsWord (s.rest.drop 1)
  let isInFlow := l.isInFlow
  if c = '%' ∧ isFirst then l.fetchDirective
  else if isFirst ∧ s.atMark '-' then l.outermost .documentStart 3
  else if isFirst ∧ s.atMark '.' then l.outermost .documentEnd 3
  else if c = '[' then l.openFlow .openList
  else if c = '\x7b' then l.openFlow .openMap
  else if c = ']' then l.closeFlow .closeList
  else if c = '\x7d' then l.closeFlow .closeMap
  else if c = ',' then l.fetchComma
  else if c = '-' ∧ isMark then l.fetchEntry
  else if c = '?' ∧ (isInFlow ∨ isMark) then l.fetchKey
  else if c = ':' ∧ (isInFlow ∨ isMark) then l.fetchValue
  else if c = '*' then l.fetchAnchor .reference
  else if c = '&' then l.fetchAnchor .anchor
  else if c = '!' then l.fetchWith Source.tagName
  else if c = '|' ∧ !isInFlow then l.fetchBlockScalar false
  else if c = '>' ∧ !isInFlow then l.fetchBlockScalar true
  else if c = '\'' ∨ c = '"' then l.fetchQuoted c
  else if startsPlain isInFlow s.rest then l.fetchPlain
  else .error .malformed

/-- The end of the text ends every collection outside brackets. -/
def finish (l : Lexer) : Except Fault (List Token) := do
  let l ← (l.unwind 0).dropKey
  return l.tokens.reverse

/-- How many tokens stay as they are: those in front of everything that may still turn out to be a key. -/
def settled (l : Lexer) : Nat :=
  (l.keys.filterMap fun k => (k.filter (!isStale l.source ·)).map (·.place)).foldl min l.count

end Lexer

/-- The tokens of a text, up to a fault if there is one. -/
structure Tokens where
  known : List Token
  fault : Option Fault

namespace Lexer

def stopAt (l : Lexer) (f : Fault) : Tokens := ⟨l.tokens.reverse.take l.settled, some f⟩

def run : (fuel : Nat) → Lexer → Tokens
  | 0, l => l.stopAt .malformed
  | fuel + 1, l =>
    match l.prepare with
    | .error f => l.stopAt f
    | .ok next =>
      match next.source.rest with
      | [] => match next.finish with
        | .ok ts => ⟨ts, none⟩
        | .error f => l.stopAt f
      | c :: _ => match next.fetch c with
        | .ok next => run fuel next
        | .error f => l.stopAt f

end Lexer

/-- The tokens of a whole text. -/
def tokens (cs : List Char) : Tokens :=
  if cs.all isWritable then
    let cs := if cs.head? = some '\ufeff' then cs.drop 1 else cs
    (Lexer.ofText cs).run (cs.length + 1)
  else ⟨[], some .malformed⟩

end Playbook.Yaml
