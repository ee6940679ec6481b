import Playbook.Number.Numeral
import Playbook.Text.Json
/-!
# Reading JSON

The value that a JSON text stands for. The last of two fields of one name wins. A failure says what was
expected and at which character, or which limit was exceeded.
-/

namespace Playbook.Json

open CodePoint (char)

inductive ReadFault where
  /-- What is wrong, and the text from that character on. -/
  | unexpected (problem : String) (rest : WideString)
  | tooManyDigits (digits : Nat)
  /-- Lists or objects stand too deep in one another. -/
  | tooDeep (kind : String)
deriving Repr, DecidableEq

def isJsonSpace (c : Char) : Bool := c == ' ' || c == '\t' || c == '\n' || c == '\r'

def skipSpace (s : WideString) : WideString := s.dropWhile (·.is isJsonSpace)

/-! ### Strings -/

def hexValue? (p : CodePoint) : Option Nat := p.char?.bind Number.hexValue?

/-- Four digits. They count only with something behind them, because a string does not end with them. -/
def unit? : WideString → Option (Nat × WideString)
  | a :: b :: c :: d :: e :: rest => do
    return (((← hexValue? a) * 16 + (← hexValue? b)) * 256 + (← hexValue? c) * 16 + (← hexValue? d), e :: rest)
  | _ => none

def simpleEscape? : Char → Option Char
  | '"' => some '"'
  | '\\' => some '\\'
  | '/' => some '/'
  | 'b' => some '\x08'
  | 'f' => some '\x0c'
  | 'n' => some '\n'
  | 'r' => some '\r'
  | 't' => some '\t'
  | _ => none

/-- The second half of a pair of units, where the first half asks for one. -/
def lowUnit? (high : Nat) : WideString → Option (Nat × WideString)
  | char '\\' :: char 'u' :: s =>
    if 0xd800 ≤ high ∧ high < 0xdc00 then
      (unit? s).filter fun (low, _) => 0xdc00 ≤ low && low < 0xe000
    else none
  | _ => none

/-- Reads a string behind its opening quote; `opening` is the text from that quote on. -/
def readString (opening : WideString) :
    (fuel : Nat) → WideString → (read : WideString) → Except ReadFault (WideString × WideString)
  | 0, _, _ => .error (.unexpected "Unterminated string starting at" opening)
  | _ + 1, [], _ => .error (.unexpected "Unterminated string starting at" opening)
  | fuel + 1, .half i :: s, read => readString opening fuel s (.half i :: read)
  | fuel + 1, char c :: s, read =>
    if c = '"' then .ok (read.reverse, s)
    else if c.toNat < 0x20 then .error (.unexpected "Invalid control character at" (char c :: s))
    else if c ≠ '\\' then readString opening fuel s (char c :: read)
    else match s with
      | [] => .error (.unexpected "Unterminated string starting at" opening)
      | char 'u' :: digits =>
        match unit? digits with
        | none => .error (.unexpected "Invalid \\uXXXX escape" s)
        | some (high, rest) =>
          match lowUnit? high rest with
          | some (low, rest) =>
            readString opening fuel rest (.ofNumber (0x10000 + (high - 0xd800) * 0x400 + (low - 0xdc00)) :: read)
          | none => readString opening fuel rest (.ofNumber high :: read)
      | e :: rest =>
        match e.char?.bind simpleEscape? with
        | some d => readString opening fuel rest (char d :: read)
        | none => .error (.unexpected "Invalid \\escape" (char c :: s))

/-! ### Numbers -/

/-- The digits behind a point, with the text after them; nothing if no digit follows. -/
def fraction? : List Char → Option (List Char × List Char)
  | '.' :: cs => if (cs.takeWhile Char.isDigit).isEmpty then none else some (cs.takeWhile Char.isDigit, cs.dropWhile Char.isDigit)
  | _ => none

/-- Reads a number whose sign is already taken. A whole number may have only so many digits. -/
def readNumber? (negative : Bool) (cs : List Char) : Option (Except ReadFault Json × List Char) :=
  let whole := match cs with
    | '0' :: _ => ['0']
    | _ => cs.takeWhile Char.isDigit
  if whole.isEmpty then none
  else
    let rest := cs.drop whole.length
    let (places, rest) := (fraction? rest).getD ([], rest)
    let (power, rest) := ((Number.exponent? rest).map fun (n, rest) => (some n, rest)).getD (none, rest)
    if places.isEmpty ∧ power.isNone then
      some (if Number.digitLimit < whole.length then .error (.tooManyDigits whole.length)
        else .ok (.int (Number.signed negative (Number.natOfDigits whole))), rest)
    else
      some (.ok (.float (Number.scientific negative (whole ++ places) (power.getD 0 - places.length))), rest)

/-! ### Values -/

def literals : List (List Char × Json) :=
  [("null".toList, .null), ("true".toList, .bool true), ("false".toList, .bool false), ("NaN".toList, .float (0 / 0)),
   ("Infinity".toList, .float (1 / 0)), ("-Infinity".toList, .float (-1 / 0))]

def readLiteral? (cs : List Char) : Option (Except ReadFault Json × List Char) :=
  (literals.find? (·.1.isPrefixOf cs)).map fun (word, v) => (.ok v, cs.drop word.length)

/-- Reads a number or a word. -/
def readBare? (cs : List Char) : Option (Except ReadFault Json × List Char) :=
  (match cs with
    | '-' :: rest => readNumber? true rest
    | _ => readNumber? false cs).or (readLiteral? cs)

mutual

/-- Reads a value in which lists and objects stand no deeper in one another than `depth`. -/
def readValue (depth : Nat) : (fuel : Nat) → WideString → Except ReadFault (Json × WideString)
  | 0, s => .error (.unexpected "Expecting value" s)
  | fuel + 1, s =>
    match s with
    | char '"' :: rest => do
      let (text, rest) ← readString s (rest.length + 1) rest []
      return (.str text, rest)
    | char '\x7b' :: rest =>
      match depth with
      | 0 => .error (.tooDeep "object")
      | depth + 1 =>
        match skipSpace rest with
        | char '\x7d' :: rest => .ok (.obj [], rest)
        | rest => readFields depth fuel rest []
    | char '[' :: rest =>
      match depth with
      | 0 => .error (.tooDeep "array")
      | depth + 1 =>
        match skipSpace rest with
        | char ']' :: rest => .ok (.arr [], rest)
        | rest => readItems depth fuel rest []
    | _ =>
      match readBare? s.front with
      | some (result, rest) => return (← result, s.drop (s.front.length - rest.length))
      | none => .error (.unexpected "Expecting value" s)

def readItems (depth : Nat) : (fuel : Nat) → WideString → (read : List Json) → Except ReadFault (Json × WideString)
  | 0, s, _ => .error (.unexpected "Expecting value" s)
  | fuel + 1, s, read => do
    let (v, rest) ← readValue depth fuel s
    match skipSpace rest with
    | char ']' :: rest => return (.arr (v :: read).reverse, rest)
    | char ',' :: rest => readItems depth fuel (skipSpace rest) (v :: read)
    | rest => .error (.unexpected "Expecting ',' delimiter" rest)

def readFields (depth : Nat) :
    (fuel : Nat) → WideString → (read : List (WideString × Json)) → Except ReadFault (Json × WideString)
  | 0, s, _ => .error (.unexpected "Expecting value" s)
  | fuel + 1, s, read =>
    match s with
    | char '"' :: rest => do
      let (name, rest) ← readString s (rest.length + 1) rest []
      match skipSpace rest with
      | char ':' :: rest =>
        let (v, rest) ← readValue depth fuel (skipSpace rest)
        let read := insertField name v read
        match skipSpace rest with
        | char '\x7d' :: rest => return (.obj read, rest)
        | char ',' :: rest => readFields depth fuel (skipSpace rest) read
        | rest => .error (.unexpected "Expecting ',' delimiter" rest)
      | rest => .error (.unexpected "Expecting ':' delimiter" rest)
    | _ => .error (.unexpected "Expecting property name enclosed in double quotes" s)
where
  insertField (name : WideString) (v : Json) (fields : List (WideString × Json)) : List (WideString × Json) :=
    if fields.any (·.1 = name) then fields.map fun (n, old) => if n = name then (n, v) else (n, old)
    else fields ++ [(name, v)]

end

/-- The value of a whole text, in which lists and objects may stand `depth` deep in one another. -/
def read (depth : Nat) (s : WideString) : Except ReadFault Json := do
  let (v, rest) ← readValue depth (2 * s.length + 2) (skipSpace s)
  if (skipSpace rest).isEmpty then return v else .error (.unexpected "Extra data" (skipSpace rest))

/-- Where the fault is: lines and columns count from one, characters from zero. -/
def ReadFault.message (whole : WideString) : ReadFault → String
  | unexpected problem rest =>
    let before := whole.take (whole.length - rest.length)
    let line := before.count (char '\n') + 1
    let column := (before.reverse.takeWhile (· ≠ char '\n')).length + 1
    s!"{problem}: line {line} column {column} (char {before.length})"
  | tooManyDigits digits => Number.tooLongText digits
  | tooDeep kind => s!"maximum recursion depth exceeded while decoding a JSON {kind} from a unicode string"

end Playbook.Json
