import Playbook.Text.Utf8
import Playbook.Yaml.Scalar
/-!
# YAML tokens

The tokens of a text and how those with a name in them are read: anchors, aliases, tags and directives.
-/

namespace Playbook.Yaml

inductive Token where
  | version (major : Nat)
  | handle (name meaning : String)
  /-- A directive that means nothing. -/
  | reserved
  | documentStart
  | documentEnd
  | sequenceStart
  | mappingStart
  | blockEnd
  | openList
  | closeList
  | openMap
  | closeMap
  | entry
  | comma
  | key
  | value
  | reference (name : String)
  | anchor (name : String)
  | tag (handle : Option String) (suffix : String)
  | scalar (text : WideString) (isPlain : Bool)
deriving Repr, DecidableEq

namespace Source

def isWordChar (c : Char) : Bool := c.isAlphanum || c == '-' || c == '_'

/-- A word of at least one character. -/
def word (s : Source) : Except Fault (String × Source) :=
  let (name, s) := s.span isWordChar
  if name.isEmpty then .error .malformed else .ok (String.ofList name, s)

/-- The name behind the mark of an anchor or a reference. -/
def anchorName (s : Source) : Except Fault (String × Source) := do
  let (name, s) ← s.step.word
  if s.atWordEnd || "?:,]\x7d%@\x60".toList.contains (s.rest.headD ' ') then return (name, s) else throw .malformed

/-! ### Tags -/

def isUriChar (c : Char) : Bool := c.isAlphanum || "-;/?:@&=+$,_.!~*'()[]".toList.contains c

/-- The bytes that percent signs with two digits each stand for. -/
def percentBytes : (fuel : Nat) → Source → Except Fault (Text.Bytes × Source)
  | 0, _ => .error .malformed
  | fuel + 1, s =>
    match s.rest with
    | '%' :: a :: b :: _ =>
      match codeOfDigits [a, b] with
      | some code => do
        let (more, s) ← percentBytes fuel (s.skip 3)
        return (code.toUInt8 :: more, s)
      | none => .error .malformed
    | '%' :: _ => .error .malformed
    | _ => .ok ([], s)

def uriFrom : (fuel : Nat) → Source → Except Fault (List Char × Source)
  | 0, _ => .error .malformed
  | fuel + 1, s => do
    let (plain, s) := s.span isUriChar
    if s.startsWith '%' then
      let (bytes, s) ← percentBytes (s.rest.length + 1) s
      match Text.decodeUtf8 bytes with
      | .ok meant =>
        let (more, s) ← uriFrom fuel s
        return (plain ++ meant ++ more, s)
      | .error _ => throw .malformed
    else return (plain, s)

def uri (s : Source) : Except Fault (String × Source) := do
  let (cs, after) ← uriFrom (s.rest.length + 1) s
  if after.offset = s.offset then throw .malformed else return (String.ofList cs, after)

/-- A handle starts with an exclamation mark and is that mark alone or ends with a second one. -/
def handle (s : Source) : Except Fault (String × Source) :=
  match s.rest with
  | '!' :: cs =>
    if cs.head? = some ' ' then .ok ("!", s.step)
    else
      let name := cs.takeWhile isWordChar
      match cs.drop name.length with
      | '!' :: _ => .ok (String.ofList ('!' :: name ++ ['!']), s.skip (name.length + 2))
      | _ => .error .malformed
  | _ => .error .malformed

def atBlank (s : Source) : Bool := s.startsWith ' ' || s.atLineEnd

def tagName (s : Source) : Except Fault (Token × Source) := do
  let (token, s) : Token × Source ← match s.rest.drop 1 with
    | '<' :: _ => do
      let (suffix, s) ← (s.skip 2).uri
      if s.startsWith '>' then pure (Token.tag none suffix, s.step) else throw .malformed
    | cs =>
      if endsWord cs then pure (Token.tag none "!", s.step)
      else if (cs.takeWhile fun c => c ≠ ' ' ∧ !isBreak c).contains '!' then do
        let (handle, s) ← s.handle
        let (suffix, s) ← s.uri
        pure (Token.tag (some handle) suffix, s)
      else do
        let (suffix, s) ← s.step.uri
        pure (Token.tag (some "!") suffix, s)
  if s.atBlank then return (token, s) else throw .malformed

/-! ### Directives -/

def digits (s : Source) : Except Fault (Nat × Source) :=
  let (ds, s) := s.span Char.isDigit
  if ds.isEmpty then .error .malformed else .ok (Number.natOfDigits ds, s)

/-- A directive takes up its line with the line break. -/
def directive (s : Source) : Except Fault (Token × Source) := do
  let (name, s) ← s.step.word
  if !s.atBlank then throw .malformed
  let (token, s) : Token × Source ←
    if name = "YAML" then do
      let (major, s) ← s.skipBlanks.digits
      if !s.startsWith '.' then throw .malformed
      let (_, s) ← s.step.digits
      pure (Token.version major, s)
    else if name = "TAG" then do
      let (name, s) ← s.skipBlanks.handle
      if !s.startsWith ' ' then throw .malformed
      let (meaning, s) ← s.skipBlanks.uri
      pure (Token.handle name meaning, s)
    else pure (Token.reserved, s.skipWhile (!isBreak ·))
  if !s.atBlank then throw .malformed
  let s := s.skipBlanks
  let s := if s.startsWith '#' then s.skipWhile (!isBreak ·) else s
  if s.atLineEnd then return (token, ((s.lineBreak?).map (·.2)).getD s) else throw .malformed

end Source

end Playbook.Yaml
