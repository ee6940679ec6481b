import Playbook.Text.Blank
/-!
# Texts with halves of pairs

Two numbers of sixteen bits stand together for a character beyond the basic plane; each of them is half of a pair.
Texts from outside, such as the strings of JSON or the names of files, may hold a half alone, which is no character
but has a place of its own in the text. So they are lists of code points.
-/

namespace Playbook

inductive CodePoint where
  | char (c : Char)
  /-- Half of a pair, counted from the first one. The halves from `0x400` on are second halves. -/
  | half (i : Fin 0x800)
deriving Repr, DecidableEq

namespace CodePoint

instance : Coe Char CodePoint := ⟨char⟩

def number : CodePoint → Nat
  | char c => c.toNat
  | half i => 0xd800 + i

/-- The code point of a number below `0x110000`. -/
def ofNumber (n : Nat) : CodePoint :=
  if h : n - 0xd800 < 0x800 ∧ 0xd800 ≤ n then half ⟨n - 0xd800, h.1⟩ else char (Char.ofNat n)

/-- Whether the code point is a character of a kind. -/
def is (kind : Char → Bool) : CodePoint → Bool
  | char c => kind c
  | half _ => false

def isHalf : CodePoint → Bool
  | char _ => false
  | half _ => true

def char? : CodePoint → Option Char
  | char c => some c
  | half _ => none

end CodePoint

abbrev WideString : Type := List CodePoint

namespace WideString

def ofChars (cs : List Char) : WideString := cs.map .char

@[coe] def ofString (s : String) : WideString := ofChars s.toList

instance : Coe String WideString := ⟨ofString⟩

/-- The text with a character that stands for nothing in the place of each half. -/
def plain (s : WideString) : String := String.ofList (s.map fun p => p.char?.getD '\ufffd')

/-- The characters in front of the first half. -/
def front : WideString → List Char
  | .char c :: s => c :: front s
  | _ => []

def isBlank (s : WideString) : Bool := s.all (·.is Text.isBlankChar)

/-- The text without the blanks at its ends. -/
def strip (s : WideString) : WideString :=
  ((s.dropWhile (·.is Text.isBlankChar)).reverse.dropWhile (·.is Text.isBlankChar)).reverse

/-- The character that two halves stand for together. -/
def pair? (a b : Fin 0x800) : Option Char :=
  if a.val < 0x400 ∧ 0x400 ≤ b.val then some (Char.ofNat (0x10000 + a * 0x400 + (b - 0x400))) else none

/-- The text with the halves that stand together put together. -/
def joined : WideString → WideString
  | .half a :: .half b :: s =>
    match pair? a b with
    | some c => .char c :: joined s
    | none => .half a :: joined (.half b :: s)
  | p :: s => p :: joined s
  | [] => []

/-! ### Texts without halves -/

@[simp] theorem ofChars_nil : ofChars [] = [] := rfl

@[simp] theorem ofChars_cons (c : Char) (cs : List Char) : ofChars (c :: cs) = .char c :: ofChars cs := rfl

@[simp] theorem plain_ofChars (cs : List Char) : plain (ofChars cs) = String.ofList cs := by
  simp [plain, ofChars, CodePoint.char?, Function.comp_def]

@[simp] theorem ofChars_inj {cs ds : List Char} : ofChars cs = ofChars ds ↔ cs = ds := by
  constructor
  · intro h
    rw [← String.ofList_inj, ← plain_ofChars, h, plain_ofChars]
  · exact congrArg _

@[simp] theorem ofString_inj {s t : String} : ofString s = ofString t ↔ s = t := ofChars_inj.trans String.toList_inj

@[simp] theorem ofChars_append (cs ds : List Char) : ofChars (cs ++ ds) = ofChars cs ++ ofChars ds := List.map_append

@[simp] theorem ofString_ofList (cs : List Char) : ofString (String.ofList cs) = ofChars cs := by
  rw [ofString, String.toList_ofList]

@[simp] theorem isBlank_ofString (s : String) : isBlank s = Text.blank s := by
  simp [isBlank, ofString, ofChars, Text.blank, Text.isBlank, CodePoint.is, Function.comp_def]

@[simp] theorem strip_ofString (s : String) : strip s = Text.strip s := by
  have hkind : (fun p : CodePoint => p.is Text.isBlankChar) ∘ CodePoint.char = Text.isBlankChar := rfl
  simp only [strip, Text.strip, Text.trim, Text.trimStart, Text.trimEnd, ofString, ofChars, String.toList_ofList,
    ← List.map_reverse, List.dropWhile_map, hkind]

@[simp] theorem front_append (cs : List Char) (s : WideString) : front (ofChars cs ++ s) = cs ++ front s := by
  induction cs with
  | nil => rfl
  | cons c cs ih => rw [ofChars_cons, List.cons_append, front, ih, List.cons_append]

end WideString

end Playbook
