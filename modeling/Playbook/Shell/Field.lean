import Playbook.Shell.Pattern
import Playbook.Workspace.Disk
/-!
# Fields

What a word comes to falls into fields: text that was looked up without quotes is parted at the separators, and
a field that is a pattern stands for the files that it fits.
-/

namespace Playbook.Shell

open Text (Bytes)

inductive Fragment where
  | text (bytes : Bytes) (isQuoted isSplit : Bool)
  /-- Where one field ends and another begins. -/
  | cut

/-- The parts of a field, each with whether it was quoted. -/
abbrev Field := List (Bytes × Bool)

namespace Field

def isGap (b : UInt8) : Bool := b == 32 || b == 9 || b == 10

/-- A field in progress, or none; after a blank that ended a field, a separator that is no blank ends no other. -/
structure Progress where
  current : Option Field
  isClosed : Bool

def split (separators : Bytes) (p : Progress) : Bytes → List Field × Progress
  | [] => ([], p)
  | b :: rest =>
    if !separators.contains b then split separators ⟨some (p.current.getD [] ++ [([b], false)]), false⟩ rest
    else
      let ended := if isGap b ∨ p.isClosed then p.current.toList else [p.current.getD []]
      let isClosed := isGap b && (p.isClosed || p.current.isSome)
      let (fields, q) := split separators ⟨none, isClosed⟩ rest
      (ended ++ fields, q)

def ofFragments (separators : Bytes) (p : Progress) : List Fragment → List Field
  | [] => p.current.toList
  | .cut :: fs => p.current.toList ++ ofFragments separators ⟨none, false⟩ fs
  | .text b isQuoted isSplit :: fs =>
    if isSplit then
      let (fields, q) := split separators p b
      fields ++ ofFragments separators q fs
    else ofFragments separators ⟨some (p.current.getD [] ++ [(b, isQuoted)]), false⟩ fs

def bytes (f : Field) : Bytes := f.flatMap (·.1)

/-- Characters with a mark on those that were not quoted; neighbouring bytes belong together. -/
def marked : Field → Marked
  | [] => []
  | [(b, q)] => shown b q
  | (b, q) :: (c, r) :: f => if q = r then marked ((b ++ c, q) :: f) else shown b q ++ marked ((c, r) :: f)
termination_by f => f.length
where
  shown (b : Bytes) (q : Bool) : Marked := (Text.decodeUtf8Lenient b).map (·, !q)

/-! ### Files -/

def splitNames (cs : Marked) : List Marked := cs.splitOnP (·.1 == '/')

/-- The names in a directory that a pattern fits; hidden ones have to be asked for. -/
def matching (d : Disk) (loc : Location) (p : Pattern) : List String :=
  ((d.names loc).map fun name => String.ofList (Text.decodeUtf8Lenient name)).filter fun name =>
    p.fits name.toList && (!name.startsWith "." || p.head? == some (.char '.'))

/-- The paths that lead along the patterns, with what stands in front of them. -/
def paths (d : Disk) (loc : Location) (front : String) : List Marked → List String
  | [] => []
  | part :: parts =>
    let pattern := Pattern.ofMarked part
    let step (name : String) : List String :=
      match d.locate loc (if name.isEmpty then [] else Location.ofNames [name]) with
      | .error _ => []
      | .ok loc =>
        if (d.find? loc).isNone then []
        else if parts.isEmpty then [front ++ name]
        else if d.isDirectory loc then paths d loc (front ++ name ++ "/") parts
        else []
    match pattern.literal? with
    | some name => step (String.ofList name)
    | none => (matching d loc pattern).flatMap step

/-- The names of the files that the field fits as a pattern, or else the field itself. -/
def expand (d : Disk) (cwd : Location) (f : Field) : List Bytes :=
  let cs := marked f
  if cs.any fun (c, isSpecial) => isSpecial && ['*', '?', '['].contains c then
    let isAbsolute := cs.head?.any (·.1 == '/')
    let found := if isAbsolute then paths d [] "/" (splitNames cs.tail) else paths d cwd "" (splitNames cs)
    if found.isEmpty then [f.bytes] else found.map fun name => Text.encodeUtf8 name.toList
  else [f.bytes]

end Field

end Playbook.Shell
