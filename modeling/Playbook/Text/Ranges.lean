/-!
# Ranges of characters
-/

namespace Playbook.Text

/-- Whether the character is in one of the ranges, which are given by their first and last code points. -/
def isIn (ranges : List (Nat × Nat)) (c : Char) : Bool :=
  ranges.any fun (first, last) => first ≤ c.toNat && c.toNat ≤ last

end Playbook.Text
