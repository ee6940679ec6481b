import Playbook.Document.Flag
/-!
# Blocks and problems

A document is a list of blocks. A directive invokes a skill; text, comments and fenced code are
plain blocks, told apart from directives by three reserved names.
-/

namespace Playbook

structure Block where
  name : String
  flags : List Flag
  content : String
  line : Nat
  endLine : Nat
  position : Option Position
  language : Option String
deriving Repr, DecidableEq

namespace Block

def textName : String := "plainText"

def commentName : String := "plainComment"

def codeName : String := "plainCodeBlock"

def plainNames : List String := [textName, commentName, codeName]

def isDirective (b : Block) : Bool := !plainNames.contains b.name

/-- A run of plain text without a visible character. -/
def isBlank (b : Block) : Bool := b.name == textName && Text.blank b.content

/-- The last flag of the name. -/
def flag? (b : Block) (name : String) : Option Flag := b.flags.reverse.find? (·.name == name)

end Block

/-! ### Parameters -/

/-- Flag values by flag name, each joined with single blanks. -/
abbrev Params := List (String × String)

section Values

variable {κ α : Type} [DecidableEq κ]

/-- Puts a value in the place of the old one, or at the end. -/
def insertValue (key : κ) (value : α) : List (κ × α) → List (κ × α)
  | [] => [(key, value)]
  | (k, v) :: rest => if k = key then (k, value) :: rest else (k, v) :: insertValue key value rest

variable [BEq κ] [LawfulBEq κ]

theorem lookup_cons_eq (key : κ) (value : α) (kvs : List (κ × α)) (other : κ) :
    ((key, value) :: kvs).lookup other = if other = key then some value else kvs.lookup other := by
  by_cases hother : other = key
  · simp [hother]
  · rw [List.lookup_cons, beq_eq_false_iff_ne.2 hother, if_neg hother]

theorem lookup_insertValue (key : κ) (value : α) (kvs : List (κ × α)) (other : κ) :
    (insertValue key value kvs).lookup other = if other = key then some value else kvs.lookup other := by
  induction kvs with
  | nil => rw [insertValue, lookup_cons_eq]
  | cons kv rest ih =>
    obtain ⟨k, v⟩ := kv
    rw [insertValue]
    by_cases hk : k = key
    · subst hk
      rw [if_pos rfl, lookup_cons_eq, lookup_cons_eq]
      by_cases hother : other = k <;> simp [hother]
    · rw [if_neg hk, lookup_cons_eq, lookup_cons_eq, ih]
      by_cases hother : other = k
      · simp [hother, hk]
      · simp [hother]

end Values

def Flag.joined (f : Flag) : String := " ".intercalate f.values

/-- A later flag of the same name replaces the value and keeps the place. -/
def Block.params (b : Block) : Params := b.flags.foldl (fun ps f => insertValue f.name f.joined ps) []

/-! ### Neighbours -/

/-- The first block that is not blank at `index`, `index + step`, `index + 2 * step`, … -/
def firstVisible (blocks : List Block) (step : Int) : (tries : Nat) → (index : Int) → Option Block
  | 0, _ => none
  | tries + 1, index =>
    if index < 0 then none
    else match blocks[index.toNat]? with
      | none => none
      | some b => if b.isBlank then firstVisible blocks step tries (index + step) else some b

/-- The nearest block in the direction of `step`, blank text skipped. -/
def adjacentBlock (blocks : List Block) (index : Int) (step : Int) : Option Block :=
  firstVisible blocks step blocks.length (index + step)

def nextBlock (blocks : List Block) (index : Int) : Option Block := adjacentBlock blocks index 1

def previousBlock (blocks : List Block) (index : Int) : Option Block := adjacentBlock blocks index (-1)

/-! ### Problems -/

inductive Severity where
  | critical
  | warning
  | info
deriving Repr, DecidableEq

namespace Severity

def text : Severity → String
  | critical => "critical"
  | warning => "warning"
  | info => "info"

def ofText? : String → Option Severity
  | "critical" => some critical
  | "warning" => some warning
  | "info" => some info
  | _ => none

end Severity

/-- Something wrong with a document, collected beside its blocks. -/
structure Problem where
  code : String
  message : String
  line : Option Int
  severity : Severity
  context : Option String
deriving Repr, DecidableEq

namespace Problem

def isCritical (p : Problem) : Bool := p.severity == .critical

def badDirectiveCode : String := "INVALID_ANNOTATION"

def openFenceCode : String := "UnclosedCodeBlock"

def badDirective (line : Nat) (text : List Char) : Problem where
  code := badDirectiveCode
  message := s!"Invalid annotation syntax: {String.ofList text}"
  line := some line
  severity := .critical
  context := some (String.ofList text)

def openFence (line : Nat) (opening : List Char) : Problem where
  code := openFenceCode
  message := "Unclosed code block detected."
  line := some line
  severity := .critical
  context := some (String.ofList opening)

end Problem

end Playbook
