/-!
# Searching a text
-/

namespace Playbook.Text

/-- What stands before and after the first occurrence of `needle`. -/
def splitFirst? (needle : List Char) : List Char → Option (List Char × List Char)
  | [] => if needle = [] then some ([], []) else none
  | c :: cs =>
    if needle.isPrefixOf (c :: cs) then some ([], (c :: cs).drop needle.length)
    else (splitFirst? needle cs).map fun (before, after) => (c :: before, after)

def contains (needle cs : List Char) : Bool := (splitFirst? needle cs).isSome

end Playbook.Text
