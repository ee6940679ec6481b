/-!
# UTF-8

Reading bytes as text. A malformed stretch is the longest run of bytes that could still have begun a
character; a strict reader reports the first one, a lenient reader puts U+FFFD in the place of each.
-/

namespace Playbook.Text

abbrev Bytes := List UInt8

def encodeUtf8 (cs : List Char) : Bytes := cs.flatMap String.utf8EncodeChar

inductive Utf8Fault where
  | badStart
  | badContinuation
  | endsEarly
deriving Repr, DecidableEq

/-- What a first byte announces: how many bytes follow, the bounds of the next one, and its own bits. -/
structure LeadByte where
  following : Nat
  least : Nat
  greatest : Nat
  bits : Nat

def leadByte (b : Nat) : Option LeadByte :=
  if b < 0x80 then some ⟨0, 0x80, 0xbf, b⟩
  else if b < 0xc2 then none
  else if b < 0xe0 then some ⟨1, 0x80, 0xbf, b - 0xc0⟩
  else if b = 0xe0 then some ⟨2, 0xa0, 0xbf, 0⟩
  else if b = 0xed then some ⟨2, 0x80, 0x9f, 0xd⟩
  else if b < 0xf0 then some ⟨2, 0x80, 0xbf, b - 0xe0⟩
  else if b = 0xf0 then some ⟨3, 0x90, 0xbf, 0⟩
  else if b < 0xf4 then some ⟨3, 0x80, 0xbf, b - 0xf0⟩
  else if b = 0xf4 then some ⟨3, 0x80, 0x8f, 4⟩
  else none

/-- One character with the bytes after it, or a malformed stretch with its length. -/
inductive Utf8Step where
  | char (c : Char) (rest : Bytes)
  | malformed (fault : Utf8Fault) (length : Nat) (rest : Bytes)

/-- Reads the `following` bytes of a character; `taken` bytes of it are read already. -/
def continueChar : (following least greatest bits taken : Nat) → Bytes → Utf8Step
  | 0, _, _, bits, _, rest => .char (Char.ofNat bits) rest
  | _ + 1, _, _, _, taken, [] => .malformed .endsEarly taken []
  | following + 1, least, greatest, bits, taken, b :: rest =>
    if least ≤ b.toNat ∧ b.toNat ≤ greatest then
      continueChar following 0x80 0xbf (bits * 64 + (b.toNat - 0x80)) (taken + 1) rest
    else .malformed .badContinuation taken (b :: rest)

def stepUtf8 (b : UInt8) (rest : Bytes) : Utf8Step :=
  match leadByte b.toNat with
  | none => .malformed .badStart 1 rest
  | some lead => continueChar lead.following lead.least lead.greatest lead.bits 1 rest

def Utf8Step.rest : Utf8Step → Bytes
  | .char _ rest => rest
  | .malformed _ _ rest => rest

/-- The character itself, or the replacement character for a malformed stretch. -/
def Utf8Step.shown : Utf8Step → Char
  | .char c _ => c
  | .malformed .. => Char.ofNat 0xfffd

theorem length_rest_continueChar_le (following least greatest bits taken : Nat) (bytes : Bytes) :
    (continueChar following least greatest bits taken bytes).rest.length ≤ bytes.length := by
  fun_induction continueChar following least greatest bits taken bytes with
  | case1 => simp [Utf8Step.rest]
  | case2 => simp [Utf8Step.rest]
  | case3 _ _ _ _ _ _ _ _ ih => exact Nat.le_succ_of_le ih
  | case4 => simp [Utf8Step.rest]

theorem length_rest_stepUtf8_lt (b : UInt8) (bytes : Bytes) :
    (stepUtf8 b bytes).rest.length < (b :: bytes).length := by
  unfold stepUtf8
  split
  · simp [Utf8Step.rest]
  · exact Nat.lt_succ_of_le (length_rest_continueChar_le ..)

/-! ### Strict reading -/

structure Utf8Error where
  fault : Utf8Fault
  position : Nat
  bytes : Bytes
deriving Repr, DecidableEq

/-- Reads the bytes that are left of `total` bytes. -/
def decodeUtf8Of (total : Nat) : Bytes → Except Utf8Error (List Char)
  | [] => .ok []
  | b :: rest =>
    match h : stepUtf8 b rest with
    | .malformed fault length _ => .error ⟨fault, total - (rest.length + 1), (b :: rest).take length⟩
    | .char c more => do
      have := length_rest_stepUtf8_lt b rest
      return c :: (← decodeUtf8Of total more)
termination_by bytes => bytes.length
decreasing_by simpa [h, Utf8Step.rest] using this

def decodeUtf8 (bytes : Bytes) : Except Utf8Error (List Char) := decodeUtf8Of bytes.length bytes

def Utf8Fault.reason : Utf8Fault → String
  | .badStart => "invalid start byte"
  | .badContinuation => "invalid continuation byte"
  | .endsEarly => "unexpected end of data"

/-- What is said of bytes that are nothing in an encoding. -/
def undecodableText (encoding : String) (position : Nat) (bytes : Bytes) (reason : String) : String :=
  match bytes with
  | [b] => s!"'{encoding}' codec can't decode byte 0x{String.ofList ((Nat.toDigits 16 (b.toNat + 256)).drop 1)} in position {position}: {reason}"
  | bytes => s!"'{encoding}' codec can't decode bytes in position {position}-{position + bytes.length - 1}: {reason}"

def Utf8Error.message (e : Utf8Error) : String := undecodableText "utf-8" e.position e.bytes e.fault.reason

/-! ### Lenient reading -/

def decodeUtf8Lenient : Bytes → List Char
  | [] => []
  | b :: rest =>
    let step := stepUtf8 b rest
    have := length_rest_stepUtf8_lt b rest
    step.shown :: decodeUtf8Lenient step.rest
termination_by bytes => bytes.length
decreasing_by exact this

end Playbook.Text
