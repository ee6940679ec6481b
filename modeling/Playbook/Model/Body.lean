import Playbook.Model.Http
import Playbook.Text.JsonReader
/-!
# Bodies

The value that the body of an answer stands for: JSON in one of several encodings, which the first bytes tell. A half of
a pair may stand alone in each of them.
-/

namespace Playbook.Body

open Text (Bytes undecodableText)

/-! ### Encodings -/

inductive Encoding where
  | utf8
  | utf16 (isBig : Bool)
  | utf32 (isBig : Bool)
deriving Repr, DecidableEq

/-- The encoding, by a mark in front or by where the first zeros are, and the length of the mark. -/
def encodingOf (bytes : Bytes) : Encoding × Nat :=
  match bytes.map UInt8.toNat with
  | 0 :: 0 :: 0xfe :: 0xff :: _ => (.utf32 true, 4)
  | 0xff :: 0xfe :: 0 :: 0 :: _ => (.utf32 false, 4)
  | 0xfe :: 0xff :: _ => (.utf16 true, 2)
  | 0xff :: 0xfe :: _ => (.utf16 false, 2)
  | 0xef :: 0xbb :: 0xbf :: _ => (.utf8, 3)
  | 0 :: 0 :: _ :: _ :: _ => (.utf32 true, 0)
  | 0 :: _ :: _ :: _ :: _ => (.utf16 true, 0)
  | _ :: 0 :: 0 :: 0 :: _ => (.utf32 false, 0)
  | _ :: 0 :: _ :: _ :: _ => (.utf16 false, 0)
  | [0, _] => (.utf16 true, 0)
  | [_, 0] => (.utf16 false, 0)
  | _ => (.utf8, 0)

/-- Half of a pair in the form of a character of three bytes. -/
def half? : Bytes → Option CodePoint
  | a :: b :: c :: _ =>
    if a.toNat = 0xed ∧ 0xa0 ≤ b.toNat ∧ b.toNat < 0xc0 ∧ 0x80 ≤ c.toNat ∧ c.toNat < 0xc0 then
      some (.ofNumber (0xd800 + (b.toNat - 0xa0) * 0x40 + (c.toNat - 0x80)))
    else none
  | _ => none

def decodeUtf8 : (fuel : Nat) → (position : Nat) → Bytes → Except String WideString
  | 0, _, _ | _, _, [] => .ok []
  | fuel + 1, position, b :: rest =>
    match half? (b :: rest) with
    | some p => (decodeUtf8 fuel (position + 3) (rest.drop 2)).map (p :: ·)
    | none =>
      match Text.stepUtf8 b rest with
      | .char c more => (decodeUtf8 fuel (position + (rest.length + 1 - more.length)) more).map (.char c :: ·)
      | .malformed fault length _ => .error (undecodableText "utf-8" position ((b :: rest).take length) fault.reason)

/-- The number that bytes are together. -/
def numberOf (isBig : Bool) (bytes : Bytes) : Nat :=
  (if isBig then bytes else bytes.reverse).foldl (fun n b => n * 0x100 + b.toNat) 0

def nameOf (bits : Nat) (isBig : Bool) : String := if isBig then s!"utf-{bits}-be" else s!"utf-{bits}-le"

/-- The units of two bytes, each of which is a character or half of a pair. -/
def units (isBig : Bool) : (position : Nat) → Bytes → Except String WideString
  | _, [] => .ok []
  | position, a :: b :: rest => (units isBig (position + 2) rest).map (.ofNumber (numberOf isBig [a, b]) :: ·)
  | position, rest => .error (undecodableText (nameOf 16 isBig) position rest "truncated data")

def decodeUtf32 (isBig : Bool) : (position : Nat) → Bytes → Except String WideString
  | _, [] => .ok []
  | position, a :: b :: c :: d :: rest =>
    let n := numberOf isBig [a, b, c, d]
    if n < 0x110000 then (decodeUtf32 isBig (position + 4) rest).map (.ofNumber n :: ·)
    else .error (undecodableText (nameOf 32 isBig) position [a, b, c, d] "code point not in range(0x110000)")
  | position, rest => .error (undecodableText (nameOf 32 isBig) position rest "truncated data")

def decode (bytes : Bytes) : Except String WideString :=
  let (encoding, mark) := encodingOf bytes
  let bytes := bytes.drop mark
  match encoding with
  | .utf8 => decodeUtf8 (bytes.length + 1) 0 bytes
  | .utf16 isBig => (units isBig mark bytes).map WideString.joined
  | .utf32 isBig => decodeUtf32 isBig mark bytes

/-! ### Values -/

/-- A fault of the reader as the error that it is. -/
def foreign (text : WideString) (e : Json.ReadFault) : Http.Foreign :=
  let fault : HostFault := match e with
    | .unexpected .. => .json
    | .tooManyDigits _ => .value
    | .tooDeep _ => .recursion
  ⟨fault, e.message text⟩

/-- Reads a body in which lists and objects stand no deeper in one another than `depth`. -/
def read (depth : Nat) (bytes : Bytes) : Except Http.Foreign Json := do
  let text ← (decode bytes).mapError fun (problem : String) => Http.Foreign.mk .decoding problem
  (Json.read depth text).mapError (foreign text)

theorem read_of_fault {depth : Nat} {bytes : Bytes} {text : WideString} {fault : Json.ReadFault}
    (hdecode : decode bytes = .ok text) (hfault : Json.read depth text = .error fault) :
    read depth bytes = .error (foreign text fault) := by
  rw [read, hdecode]
  exact congrArg (Except.mapError (foreign text)) hfault

end Playbook.Body
