import Playbook.Shell.Process
import Playbook.Text.Quoted
/-!
# Printing from a shell

The escapes and conversions of `printf` and `echo`. A format is used again as long as it uses up arguments.
-/

namespace Playbook.Shell.Print

open Text (Bytes)

/-! ### Escapes -/

def isOctal (c : Char) : Bool := '0' ≤ c && c ≤ '7'

def isHex (c : Char) : Bool := c.isDigit || ('a' ≤ c.toLower && c.toLower ≤ 'f')

def digit (c : Char) : Nat := if c.isDigit then c.toNat - 48 else c.toLower.toNat - 87

/-- The number in the given base at the beginning, at most `limit` digits long. -/
def number (base limit : Nat) (isDigit : Char → Bool) (cs : List Char) : Nat × List Char :=
  let digits := (cs.take limit).takeWhile isDigit
  (digits.foldl (fun n c => n * base + digit c) 0, cs.drop digits.length)

def simpleEscapes : List (Char × UInt8) :=
  [('a', 7), ('b', 8), ('f', 12), ('n', 10), ('r', 13), ('t', 9), ('v', 11), ('\\', 92)]

/-- What follows a backslash: the bytes that it stands for and the rest. Octal digits come after a zero where
`zeroFirst` is set. -/
def escape (d : Dialect) (zeroFirst : Bool) (cs : List Char) : Bytes × List Char :=
  let octal (cs : List Char) : Bytes × List Char :=
    let (n, rest) := number 8 3 isOctal cs
    ([n.toUInt8], rest)
  match cs with
  | [] => ([92], [])
  | c :: rest =>
    match simpleEscapes.lookup c with
    | some b => ([b], rest)
    | none =>
      if zeroFirst ∧ c = '0' then octal rest
      else if !zeroFirst ∧ isOctal c then octal cs
      else if d = .bash ∧ !zeroFirst ∧ (c = '"' ∨ c = '\'' ∨ c = '?') then (Text.encodeUtf8 [c], rest)
      else if c = 'e' ∨ c = 'E' ∧ d = .bash then ([27], rest)
      else if d = .bash ∧ c = 'x' ∧ (rest.head?.map isHex).getD false then
        let (n, rest) := number 16 2 isHex rest
        ([n.toUInt8], rest)
      else if d = .bash ∧ (c = 'u' ∨ c = 'U') ∧ (rest.head?.map isHex).getD false then
        let (n, rest) := number 16 (if c = 'u' then 4 else 8) isHex rest
        (Text.encodeUtf8 [Char.ofNat n], rest)
      else ([92], cs)

/-- A text with its escapes replaced; the flag tells whether `\c` cut it off. -/
def unescape (d : Dialect) : (fuel : Nat) → List Char → Bytes × Bool
  | 0, _ | _, [] => ([], false)
  | _ + 1, '\\' :: 'c' :: _ => ([], true)
  | fuel + 1, '\\' :: cs =>
    let (here, rest) := escape d true cs
    let (more, isCut) := unescape d fuel rest
    (here ++ more, isCut)
  | fuel + 1, c :: cs =>
    let (more, isCut) := unescape d fuel cs
    (Text.encodeUtf8 [c] ++ more, isCut)

/-! ### Complaints -/

inductive Complaint where
  | notNumber (text : String)
  | notAllNumber (text : String)
  | noSuchConversion (text : String) (letter : Char)
  | noLetter
deriving Repr, DecidableEq

namespace Complaint

/-- Whether the format itself is wrong. -/
def isOfFormat : Complaint → Bool
  | noSuchConversion .. | noLetter => true
  | _ => false

def text : Dialect → Complaint → String
  | .bash, notNumber text | .bash, notAllNumber text => s!"{text}: invalid number"
  | .bash, noSuchConversion _ letter => s!"`{letter}': invalid format character"
  | .bash, noLetter => "`%': missing format character"
  | .sh, notNumber text => s!"{text}: expected numeric value"
  | .sh, notAllNumber text => s!"{text}: not completely converted"
  | .sh, noSuchConversion text _ => s!"%{text}: invalid directive"
  | .sh, noLetter => "missing format character"

end Complaint

/-! ### Conversions -/

structure Conversion where
  flags : List Char
  width : Nat
  precision : Option Nat
  letter : Char

/-- What follows a percent sign; one shell passes over the letters that tell a size. -/
def conversion? (d : Dialect) (cs : List Char) : Option (Conversion × List Char) :=
  let flags := cs.takeWhile ['-', '0', '+', ' ', '#'].contains
  let (width, cs) := number 10 9 Char.isDigit (cs.drop flags.length)
  let (precision, cs) := match cs with
    | '.' :: cs =>
      let (n, cs) := number 10 9 Char.isDigit cs
      (some n, cs)
    | _ => (none, cs)
  match if d = .bash then cs.dropWhile ['h', 'j', 'l', 'L', 't', 'z'].contains else cs with
  | letter :: cs => some (⟨flags, width, precision, letter⟩, cs)
  | [] => none

namespace Conversion

def isLeft (c : Conversion) : Bool := c.flags.contains '-'

/-- Blanks in front, or behind if it stands on the left. -/
def pad (c : Conversion) (b : Bytes) : Bytes :=
  let gap := c.width - b.length
  if c.isLeft then b ++ List.replicate gap 32 else List.replicate gap 32 ++ b

/-- A number with its sign; noughts go between the two. -/
def padNumber (c : Conversion) (sign digits : String) : Bytes :=
  let digits := "".pushn '0' (c.precision.getD 0 - digits.length) ++ digits
  let gap := c.width - sign.length - digits.length
  if c.flags.contains '0' ∧ !c.isLeft ∧ c.precision.isNone then Run.bytes (sign ++ "".pushn '0' gap ++ digits)
  else c.pad (Run.bytes (sign ++ digits))

def integer (c : Conversion) (n : Int) : Bytes :=
  let inBase (base : Nat) : String := String.ofList (Nat.toDigits base (n % Int.pow 2 64).toNat)
  let mark (text : String) : String := if c.flags.contains '#' then text else ""
  match c.letter with
  | 'x' => c.padNumber (mark "0x") (inBase 16)
  | 'X' => c.padNumber (mark "0X") (inBase 16).toUpper
  | 'o' => c.padNumber (mark "0") (inBase 8)
  | 'u' => c.padNumber "" (inBase 10)
  | _ =>
    let sign := if n < 0 then "-" else if c.flags.contains '+' then "+" else if c.flags.contains ' ' then " " else ""
    c.padNumber sign (toString n.natAbs)

end Conversion

/-- The number that an argument is, or else the part of it that could be read. -/
def argument (text : String) : Int × List Complaint :=
  let (negative, cs) := match text.toList with
    | '-' :: cs => (true, cs)
    | '+' :: cs => (false, cs)
    | cs => (false, cs)
  let (n, rest) := match cs with
    | '\'' :: c :: _ | '"' :: c :: _ => (c.toNat, [])
    | '0' :: 'x' :: cs => number 16 cs.length isHex cs
    | '0' :: cs => number 8 cs.length isOctal cs
    | cs => number 10 cs.length Char.isDigit cs
  let complaints : List Complaint :=
    if rest.isEmpty then [] else if rest.length = cs.length then [.notNumber text] else [.notAllNumber text]
  (if negative then -n else n, complaints)

/-- The output of one pass over the format, the arguments that are left, the complaints, and whether it was cut off. -/
structure Pass where
  bytes : Bytes
  args : List Bytes
  complaints : List Complaint
  isCut : Bool

namespace Pass

def before (b : Bytes) (complaints : List Complaint) (p : Pass) : Pass :=
  { p with bytes := b ++ p.bytes, complaints := complaints ++ p.complaints }

end Pass

/-- An argument as one would have to write it in a script. -/
def escaped (text : String) : String :=
  if text.isEmpty then "''"
  else String.ofList (text.toList.flatMap fun c =>
    if c.isAlphanum || "_-./:=+,%@^".toList.contains c || 0x80 ≤ c.toNat then [c] else ['\\', c])

/-- What a conversion makes of an argument. -/
def convert (d : Dialect) (c : Conversion) (spelling : List Char) (arg : Bytes) : Pass :=
  let shown := Run.shown arg
  let kept := (c.precision.map arg.take).getD arg
  match c.letter with
  | 's' => ⟨c.pad kept, [], [], false⟩
  | 'b' =>
    let (b, isCut) := unescape d shown.length shown.toList
    ⟨c.pad b, [], [], isCut⟩
  | 'c' => ⟨c.pad (arg.take 1), [], [], false⟩
  | letter =>
    if ['d', 'i', 'u', 'x', 'X', 'o'].contains letter then
      let (n, complaints) := if shown.isEmpty then (0, []) else argument shown
      ⟨c.integer n, [], complaints, false⟩
    else if letter = 'q' ∧ d = .bash then ⟨c.pad (Run.bytes (escaped shown)), [], [], false⟩
    else ⟨[], [], [.noSuchConversion (String.ofList spelling) letter], true⟩

def pass (d : Dialect) : (fuel : Nat) → List Char → List Bytes → Pass
  | 0, _, args | _, [], args => ⟨[], args, [], false⟩
  | fuel + 1, '\\' :: cs, args =>
    let (here, rest) := escape d false cs
    (pass d fuel rest args).before here []
  | fuel + 1, '%' :: '%' :: cs, args => (pass d fuel cs args).before [37] []
  | fuel + 1, '%' :: cs, args =>
    match conversion? d cs with
    | none => ⟨[], args, [.noLetter], true⟩
    | some (c, rest) =>
      let here := convert d c (cs.take (cs.length - rest.length)) (args.headD [])
      if here.isCut then { here with args := args.tail }
      else (pass d fuel rest args.tail).before here.bytes here.complaints
  | fuel + 1, c :: cs, args => (pass d fuel cs args).before (Text.encodeUtf8 [c]) []

def passes (d : Dialect) (format : List Char) : (fuel : Nat) → List Bytes → Bytes × List Complaint
  | 0, _ => ([], [])
  | fuel + 1, args =>
    let p := pass d format.length format args
    if p.isCut ∨ p.args.isEmpty ∨ p.args.length = args.length then (p.bytes, p.complaints)
    else
      let (more, others) := passes d format fuel p.args
      (p.bytes ++ more, p.complaints ++ others)

/-- The output of `printf` and its complaints. -/
def format (d : Dialect) (text : Bytes) (args : List Bytes) : Bytes × List Complaint :=
  passes d (Text.decodeUtf8Lenient text) (args.length + 1) args

/-! ### Echo -/

structure EchoOptions where
  newLine : Bool
  escapes : Bool

/-- The options in front and what is to be echoed. -/
def echoOptions (d : Dialect) : EchoOptions → List String → EchoOptions × Nat
  | o, [] => (o, 0)
  | o, word :: words =>
    match d, word.toList with
    | .sh, ['-', 'n'] => ({ o with newLine := false }, 1)
    | .sh, _ => (o, 0)
    | .bash, '-' :: letter :: letters =>
      let all := letter :: letters
      if all.all fun c => c == 'n' || c == 'e' || c == 'E' then
        let o := all.foldl (fun o c =>
          if c = 'n' then { o with newLine := false } else { o with escapes := c = 'e' }) o
        let (o, n) := echoOptions d o words
        (o, n + 1)
      else (o, 0)
    | .bash, _ => (o, 0)

def echo (d : Dialect) (args : List Bytes) : Bytes :=
  let (o, n) := echoOptions d ⟨true, d = .sh⟩ (args.map Run.shown)
  let text := [32].intercalate (args.drop n)
  let (b, isCut) :=
    if o.escapes ∧ text.contains 92 then
      let cs := Text.decodeUtf8Lenient text
      unescape d (cs.length + 1) cs
    else (text, false)
  b ++ if o.newLine ∧ !isCut then [10] else []

end Playbook.Shell.Print
