import Playbook.Number.Decimals
import Playbook.Text.Wide
import Playbook.Yaml.Source
/-!
# YAML scalars

The text of a scalar in each of its styles. In plain and quoted scalars a line break stands for a blank, and
further breaks stand for themselves. Block scalars keep their lines, or fold them in the same way.
-/

namespace Playbook.Yaml.Source

/-- A line break alone stands for a blank; `more` are the breaks that follow it. -/
def folded (first : Char) (more : List Char) : List Char :=
  if first ≠ '\n' then first :: more else if more.isEmpty then [' '] else more

/-! ### Plain scalars -/

/-- What stands between two words of a plain scalar. -/
structure PlainGap where
  text : List Char
  crossesLine : Bool

/-- The line breaks of a gap, which a separator ends. -/
def plainBreaks : (fuel : Nat) → Source → Option (List Char) × Source
  | 0, s => (some [], s)
  | fuel + 1, s =>
    if s.atSeparator && s.column == 0 then (none, s)
    else match s.skipBlanks.lineBreak? with
      | some (c, s) =>
        let (more, s) := plainBreaks fuel s
        (more.map (c :: ·), s)
      | none => (some [], s.skipBlanks)

def plainGap (s : Source) : PlainGap × Source :=
  let (blanks, s) := s.span (· == ' ')
  match s.lineBreak? with
  | none => (⟨blanks, false⟩, s)
  | some (first, s) =>
    match plainBreaks (s.rest.length + 1) s with
    | (some more, s) => (⟨folded first more, true⟩, s)
    | (none, s) => (⟨[], true⟩, s)

/-- The length of the word at the front. Inside brackets more characters end it. -/
def plainLength (inFlow : Bool) : List Char → Nat
  | [] => 0
  | c :: cs =>
    let endsKey := c == ':' && (endsWord cs || (inFlow && ",[]\x7b\x7d".toList.contains (cs.headD ' ')))
    if isGap c || endsKey || (inFlow && ",?[]\x7b\x7d".toList.contains c) then 0
    else plainLength inFlow cs + 1

/-- Reads words and the gaps between them; `gap` is what stands in front of the next word. The last component
tells whether the scalar is followed by a new line. -/
def plainWords (inFlow : Bool) (indent : Nat) : (fuel : Nat) → (gap : PlainGap) → Source → List Char × Source × Bool
  | 0, gap, s => ([], s, gap.crossesLine)
  | fuel + 1, gap, s =>
    let n := plainLength inFlow s.rest
    if s.startsWith '#' ∨ n = 0 then ([], s, gap.crossesLine)
    else
      let word := s.rest.take n
      let (next, s) := (s.skip n).plainGap
      if next.text.isEmpty ∨ s.startsWith '#' ∨ (!inFlow ∧ s.column < indent) then (gap.text ++ word, s, next.crossesLine)
      else
        let (more, s, crossed) := plainWords inFlow indent fuel next s
        (gap.text ++ word ++ more, s, crossed)

/-- A plain scalar outside brackets goes on in lines that are indented to `indent` columns or more. -/
def plain (inFlow : Bool) (indent : Nat) (s : Source) : List Char × Source × Bool :=
  plainWords inFlow indent (s.rest.length + 1) ⟨[], false⟩ s

/-! ### Quoted scalars -/

def simpleEscapes : List (Char × Char) := [
  ('0', '\x00'), ('a', '\x07'), ('b', '\x08'), ('t', '\t'), ('\t', '\t'), ('n', '\n'), ('v', '\x0b'), ('f', '\x0c'),
  ('r', '\r'), ('e', '\x1b'), (' ', ' '), ('"', '"'), ('\\', '\\'), ('/', '/'), ('N', '\x85'), ('_', '\xa0'),
  ('L', '\u2028'), ('P', '\u2029')]

/-- How many digits the number of a character has. -/
def codeEscapes : List (Char × Nat) := [('x', 2), ('u', 4), ('U', 8)]

def codeOfDigits (cs : List Char) : Option Nat :=
  cs.foldl (fun n c => do return (← n) * 16 + (← Number.hexValue? c)) (some 0)

def pointOfCode (code : Nat) : Except Fault CodePoint :=
  if code < 0x110000 then .ok (.ofNumber code)
  else if code < 0x80000000 then .error .noSuchCharacter
  else .error .farTooLarge

/-- Line breaks inside quotes, with blanks and tabs around them. -/
def quotedBreaks : (fuel : Nat) → Source → Except Fault (List Char × Source)
  | 0, _ => .error .malformed
  | fuel + 1, s =>
    if s.atSeparator then .error .malformed
    else
      let s := s.skipWhile fun c => c == ' ' || c == '\t'
      match s.lineBreak? with
      | some (c, s) => do
        let (more, s) ← quotedBreaks fuel s
        return (c :: more, s)
      | none => .ok ([], s)

/-- What an escape stands for; the source is behind the backslash. -/
def escape (s : Source) : Except Fault (WideString × Source) :=
  match s.rest with
  | [] => .error .malformed
  | c :: cs =>
    match simpleEscapes.lookup c, codeEscapes.lookup c with
    | some meant, _ => .ok ([.char meant], s.step)
    | none, some n =>
      match codeOfDigits (cs.take n) with
      | some code =>
        if cs.length < n then .error .malformed
        else do return ([← pointOfCode code], s.skip (n + 1))
      | none => .error .malformed
    | none, none =>
      match s.lineBreak? with
      | some (_, s) => do
        let (breaks, s) ← quotedBreaks (s.rest.length + 1) s
        return (.ofChars breaks, s)
      | none => .error .malformed

/-- Reads up to the closing quote and behind it. -/
def quotedFrom (quote : Char) : (fuel : Nat) → Source → Except Fault (WideString × Source)
  | 0, _ => .error .malformed
  | fuel + 1, s =>
    let go (read : WideString) (s : Source) : Except Fault (WideString × Source) := do
      let (more, s) ← quotedFrom quote fuel s
      return (read ++ more, s)
    match s.rest with
    | [] => .error .malformed
    | c :: cs =>
      if c = quote then
        if quote = '\'' ∧ cs.head? = some '\'' then go [.char '\''] (s.skip 2) else .ok ([], s.step)
      else if quote = '"' ∧ c = '\\' then do
        let (read, s) ← s.step.escape
        go read s
      else if isGap c then
        let (blanks, s) := s.span fun c => c == ' ' || c == '\t'
        match s.lineBreak? with
        | some (first, s) => do
          let (more, s) ← quotedBreaks (s.rest.length + 1) s
          go (.ofChars (folded first more)) s
        | none => go (.ofChars blanks) s
      else go [.char c] s.step

def quoted (quote : Char) (s : Source) : Except Fault (WideString × Source) := quotedFrom quote (s.rest.length + 1) s.step

/-! ### Block scalars -/

/-- What becomes of the line breaks at the end. -/
inductive Chomping where
  | strip
  | clip
  | keep
deriving Repr, DecidableEq

def chomping? : Char → Option Chomping
  | '+' => some .keep
  | '-' => some .strip
  | _ => none

/-- An indentation of one to nine columns. -/
def increment? (c : Char) : Option Nat := if '1' ≤ c ∧ c ≤ '9' then some (c.toNat - 48) else none

/-- The header: chomping and indentation in either order, then at most a comment. -/
def blockHeader (s : Source) : Except Fault (Chomping × Option Nat × Source) :=
  let first := s.rest.headD ' '
  let second := (s.rest.drop 1).headD ' '
  let (chomping, increment, length) : Chomping × Option Nat × Nat :=
    match chomping? first, increment? first with
    | some c, _ => (c, increment? second, if (increment? second).isSome then 2 else 1)
    | none, some n => ((chomping? second).getD .clip, some n, if (chomping? second).isSome then 2 else 1)
    | none, none => (.clip, none, 0)
  let s := s.skip length
  if ¬ (s.atLineEnd ∨ s.startsWith ' ') then .error .malformed
  else
    let s := s.skipBlanks
    let s := if s.startsWith '#' then s.skipWhile (!isBreak ·) else s
    if s.atLineEnd then .ok (chomping, increment, ((s.lineBreak?).map (·.2)).getD s) else .error .malformed

/-- The breaks in front of the first line with something in it, and the widest margin on the way. -/
def blockMargin : (fuel widest : Nat) → Source → List Char × Nat × Source
  | 0, widest, s => ([], widest, s)
  | fuel + 1, widest, s =>
    let s := s.skipBlanks
    let widest := max widest s.column
    match s.lineBreak? with
    | some (c, s) =>
      let (more, widest, s) := blockMargin fuel widest s
      (c :: more, widest, s)
    | none => ([], widest, s)

def skipMargin (indent : Nat) (s : Source) : Source :=
  s.skip ((s.rest.takeWhile (· == ' ')).take (indent - s.column)).length

def startsWithGap (s : Source) : Bool := s.startsWith ' ' || s.startsWith '\t'

/-- Reads the lines at the margin. A result is the text up to the last line, its break, the breaks that follow. -/
def blockLines (isFolded : Bool) (indent : Nat) :
    (fuel : Nat) → (breaks : List Char) → Source → List Char × List Char × List Char × Source
  | 0, breaks, s => ([], [], breaks, s)
  | fuel + 1, breaks, s =>
    if s.column ≠ indent ∨ s.rest.isEmpty then ([], [], breaks, s)
    else
      let (line, next) := s.span (!isBreak ·)
      let (lineEnd, next) : List Char × Source := match next.lineBreak? with
        | some (c, next) => ([c], next)
        | none => ([], next)
      let (more, next) := next.breaks (skipMargin indent) (next.rest.length + 1)
      if next.column ≠ indent ∨ next.rest.isEmpty then (breaks ++ line, lineEnd, more, next)
      else
        let joint :=
          if isFolded ∧ lineEnd = ['\n'] ∧ !s.startsWithGap ∧ !next.startsWithGap then
            if more.isEmpty then [' '] else []
          else lineEnd
        let (text, last, trailing, next) := blockLines isFolded indent fuel more next
        (breaks ++ line ++ joint ++ text, last, trailing, next)

/-- A block scalar inside a collection that is indented to the column before `least`. -/
def blockScalar (isFolded : Bool) (least : Nat) (s : Source) : Except Fault (List Char × Source) := do
  let (chomping, increment, s) ← s.step.blockHeader
  let least := max least 1
  let (indent, breaks, s) : Nat × List Char × Source := match increment with
    | some n =>
      let (breaks, s) := s.breaks (skipMargin (least + n - 1)) (s.rest.length + 1)
      (least + n - 1, breaks, s)
    | none =>
      let (breaks, widest, s) := blockMargin (s.rest.length + 1) 0 s
      (max least widest, breaks, s)
  let (text, last, trailing, s) := blockLines isFolded indent (s.rest.length + 1) breaks s
  return (text ++ (if chomping = .strip then [] else last) ++ (if chomping = .keep then trailing else []), s)

end Playbook.Yaml.Source
