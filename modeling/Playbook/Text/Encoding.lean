import Playbook.Text.Quoted
import Playbook.Text.Utf8
/-!
# Bytes of texts

A text is stored in UTF-8, which has no bytes for half of a pair. A name may be of any bytes: where they are not UTF-8,
each of them is a half from U+DC80 on.
-/

namespace Playbook.Text

/-- Halves that have no bytes, and where they stand. -/
structure Unencodable where
  position : Nat
  halves : WideString
deriving Repr, DecidableEq

def Unencodable.message (e : Unencodable) : String :=
  match e.halves with
  | [p] =>
    let shown := String.ofList (escapePoint p)
    s!"'utf-8' codec can't encode character '{shown}' in position {e.position}: surrogates not allowed"
  | halves =>
    let last := e.position + halves.length - 1
    s!"'utf-8' codec can't encode characters in position {e.position}-{last}: surrogates not allowed"

def bytes? : CodePoint → Option Bytes
  | .char c => some (String.utf8EncodeChar c)
  | .half _ => none

/-- In a name some of the halves stand for bytes. -/
def nameBytes? : CodePoint → Option Bytes
  | .char c => some (String.utf8EncodeChar c)
  | .half i => if 0x480 ≤ i.val ∧ i.val < 0x500 then some [(i.val - 0x400).toUInt8] else none

/-- The bytes of what stands behind `position` code points of a text. -/
def encodeFrom (code : CodePoint → Option Bytes) : (position : Nat) → WideString → Except Unencodable Bytes
  | _, [] => .ok []
  | position, p :: s =>
    match code p with
    | some b => (encodeFrom code (position + 1) s).map (b ++ ·)
    | none => .error ⟨position, p :: s.takeWhile (·.isHalf)⟩

def encode (s : WideString) : Except Unencodable Bytes := encodeFrom bytes? 0 s

def encodeName (s : WideString) : Except Unencodable Bytes := encodeFrom nameBytes? 0 s

/-- The bytes of a name, without what has none. -/
def nameBytes (s : WideString) : Bytes := s.flatMap fun p => (nameBytes? p).getD []

/-- The half that a byte of a name is shown as, if it stands in no character. -/
def halfOfByte (b : UInt8) : CodePoint := .ofNumber (0xdc00 + b.toNat)

def decodeName : Bytes → WideString
  | [] => []
  | b :: rest =>
    let step := stepUtf8 b rest
    have := length_rest_stepUtf8_lt b rest
    (match step with
      | .char c _ => [.char c]
      | .malformed _ length _ => ((b :: rest).take length).map halfOfByte) ++ decodeName step.rest
termination_by bytes => bytes.length
decreasing_by exact this

/-! ### Texts without halves -/

theorem encodeFrom_ofChars {code : CodePoint → Option Bytes} (hcode : ∀ c, code (.char c) = some (String.utf8EncodeChar c))
    (position : Nat) (cs : List Char) : encodeFrom code position (.ofChars cs) = .ok (encodeUtf8 cs) := by
  induction cs generalizing position with
  | nil => rfl
  | cons c cs ih =>
      rw [WideString.ofChars_cons, encodeFrom, hcode]
      dsimp only
      rw [ih]
      rfl

@[simp] theorem encode_ofString (s : String) : encode s = .ok (encodeUtf8 s.toList) :=
  encodeFrom_ofChars (fun _ => rfl) 0 _

end Playbook.Text
