import Playbook.Text.Quoted
import Playbook.Number.FloatText
/-!
# JSON

JSON values and their text: ASCII only, one item a line, two blanks of margin a level.
-/

namespace Playbook

inductive Json where
  | null
  | bool (b : Bool)
  | int (n : Int)
  | float (x : Float)
  | str (s : WideString)
  | arr (items : List Json)
  | obj (fields : List (WideString × Json))
deriving Inhabited

namespace Json

abbrev Fields : Type := List (WideString × Json)

/-! ### Strings -/

def unitEscape (n : Nat) : List Char := '\\' :: 'u' :: Text.hexDigits 4 n

/-- Beyond the basic plane a character is written as its two UTF-16 units. -/
def encodeChar (c : Char) : List Char :=
  if c = '"' ∨ c = '\\' then ['\\', c]
  else if c = '\n' then ['\\', 'n']
  else if c = '\r' then ['\\', 'r']
  else if c = '\t' then ['\\', 't']
  else if c = '\x08' then ['\\', 'b']
  else if c = '\x0c' then ['\\', 'f']
  else if 0x20 ≤ c.toNat ∧ c.toNat < 0x7f then [c]
  else if c.toNat < 0x10000 then unitEscape c.toNat
  else unitEscape (0xd800 + (c.toNat - 0x10000) / 0x400) ++ unitEscape (0xdc00 + (c.toNat - 0x10000) % 0x400)

def encodePoint : CodePoint → List Char
  | .char c => encodeChar c
  | p => unitEscape p.number

def encodeText (s : WideString) : List Char := '"' :: s.flatMap encodePoint ++ ['"']

/-! ### Values -/

open CodePoint (char)

def newLine (depth : Nat) : WideString := char '\n' :: List.replicate (2 * depth) (char ' ')

def intText (n : Int) : List Char := (toString n).toList

def floatText (x : Float) : String :=
  if x.isNaN then "NaN"
  else if x.isInf then (if x < 0 then "-Infinity" else "Infinity")
  else Number.floatText x

mutual

def layout (depth : Nat) : Json → WideString
  | null => "null"
  | bool b => if b then "true" else "false"
  | int n => .ofChars (intText n)
  | float x => floatText x
  | str s => .ofChars (encodeText s)
  | arr [] => [char '[', char ']']
  | arr (x :: xs) =>
    char '[' :: newLine (depth + 1) ++ layout (depth + 1) x ++ layoutItems (depth + 1) xs ++ newLine depth ++ [char ']']
  | obj [] => [char '\x7b', char '\x7d']
  | obj (f :: fs) =>
    char '\x7b' :: newLine (depth + 1) ++ layoutField (depth + 1) f ++ layoutFields (depth + 1) fs ++ newLine depth ++
      [char '\x7d']

def layoutItems (depth : Nat) : List Json → WideString
  | [] => []
  | x :: xs => char ',' :: newLine depth ++ layout depth x ++ layoutItems depth xs

def layoutField (depth : Nat) : WideString × Json → WideString
  | (name, value) => .ofChars (encodeText name) ++ char ':' :: char ' ' :: layout depth value

def layoutFields (depth : Nat) : List (WideString × Json) → WideString
  | [] => []
  | f :: fs => char ',' :: newLine depth ++ layoutField depth f ++ layoutFields depth fs

end

def render (v : Json) : WideString := layout 0 v

/-- Everything but null, false, zero and the empty text, list and object. -/
def isTruthy : Json → Bool
  | null => false
  | bool b => b
  | int n => n != 0
  | float x => x != 0
  | str s => !s.isEmpty
  | arr items => !items.isEmpty
  | obj fields => !fields.isEmpty

/-- What a value is called where another kind was wanted. -/
def kind : Json → String
  | null => "NoneType"
  | bool _ => "bool"
  | int _ => "int"
  | float _ => "float"
  | str _ => "str"
  | arr _ => "list"
  | obj _ => "dict"

/-! ### Putting values together -/

def nat (n : Nat) : Json := int n

def ofString (s : String) : Json := str s

/-- An object of several groups of fields. -/
def object (groups : List Fields) : Json := obj groups.flatten

def list {α : Type} (f : α → Json) (l : List α) : Json := arr (l.map f)

def orNull {α : Type} (f : α → Json) : Option α → Json
  | none => null
  | some a => f a

/-- The field, if there is a value for it. -/
def present {α : Type} (name : String) (f : α → Json) : Option α → Fields
  | none => []
  | some a => [(name, f a)]

/-! ### Taking values apart -/

def field? : Json → WideString → Option Json
  | obj fields, name => fields.lookup name
  | _, _ => none

def field (v : Json) (name : WideString) : Json := (v.field? name).getD null

def items : Json → List Json
  | arr items => items
  | _ => []

def text? : Json → Option WideString
  | str s => some s
  | _ => none

def text (v : Json) : WideString := v.text?.getD []

def number : Json → Int
  | int n => n
  | _ => 0

end Json

end Playbook
