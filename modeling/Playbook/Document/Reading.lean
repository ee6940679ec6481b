import Playbook.Document.Block
/-!
# Readings

What one block reader makes of a document from its first line on: a block or a problem, and the number of
lines that it takes.
-/

namespace Playbook

structure Reading where
  block : Option Block
  problem : Option Problem
  taken : Nat
deriving Repr, DecidableEq

end Playbook
