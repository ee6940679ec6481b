import Playbook.Text.Encoding
/-!
# Paths

A path is its root, if it has one, and its parts. Reading a path drops empty parts and single dots; two dots
stay, because what they mean depends on the files.
-/

namespace Playbook

/-- Why a path can name nothing. -/
inductive PathFault where
  | unencodable (error : Text.Unencodable)
  /-- The null character is in it. -/
  | null
deriving Repr, DecidableEq

def PathFault.message : PathFault → String
  | unencodable error => error.message
  | null => "embedded null byte"

structure Path where
  root : String
  parts : List WideString
deriving Repr, DecidableEq

namespace Path

open CodePoint (char)

/-- The pieces of a text between slashes. -/
def pieces : WideString → List WideString
  | [] => [[]]
  | p :: s =>
    if p = char '/' then [] :: pieces s
    else match pieces s with
      | [] => [[p]]
      | piece :: rest => (p :: piece) :: rest

/-- Exactly two slashes in front are a root of their own. -/
def rootOf : WideString → String
  | char '/' :: char '/' :: char '/' :: _ => "/"
  | char '/' :: char '/' :: _ => "//"
  | char '/' :: _ => "/"
  | _ => ""

def ofString (s : WideString) : Path where
  root := rootOf s
  parts := (pieces s).filter fun part => part ≠ [] ∧ part ≠ [char '.']

def isAbsolute (p : Path) : Bool := p.root ≠ ""

def text (p : Path) : WideString :=
  if p.root = "" ∧ p.parts = [] then "." else p.root ++ [char '/'].intercalate p.parts

/-- An absolute path stands for itself, any other one is below `base`. -/
def below (base p : Path) : Path := if p.isAbsolute then p else ⟨base.root, base.parts ++ p.parts⟩

def parent (p : Path) : Path := ⟨p.root, p.parts.dropLast⟩

/-! ### As names of files -/

/-- What is wrong with a text that is to name a file. -/
def faultOf? (s : WideString) : Option PathFault :=
  match Text.encodeName s with
  | .error e => some (.unencodable e)
  | .ok _ => if s.contains (char '\x00') then some .null else none

def fault? (p : Path) : Option PathFault := faultOf? p.text

def names (p : Path) : List Text.Bytes := p.parts.map Text.nameBytes

end Path

end Playbook
