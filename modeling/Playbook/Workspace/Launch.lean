import Playbook.Failure
import Playbook.Number.FloatText
import Playbook.Workspace.Disk
/-!
# Running other programs

What is asked of an interpreter and what comes of it. The interpreters themselves are programs that the host has or has
not.
-/

namespace Playbook

/-! ### Time limits -/

structure TimeLimit where
  micros : Nat
  /-- The limit in seconds, as it was given. -/
  text : String
deriving Repr, DecidableEq

namespace TimeLimit

def ofSeconds (n : Int) : TimeLimit := ⟨n.toNat * 1000000, toString n⟩

def ofFloat (x : Float) : TimeLimit := ⟨(x * 1000000).toUInt64.toNat, Number.floatText x⟩

end TimeLimit

/-! ### Launching -/

structure Launch where
  /-- The program that understands the script. -/
  command : String
  script : Path
  /-- Where the program works. -/
  directory : Path
  limit : Option TimeLimit
deriving Repr, DecidableEq

/-- A program that could not be started, one that was not ready in time, or one that came to its end. -/
inductive Launched where
  | notFound
  | refused (failure : Failure)
  | timedOut
  /-- Both channels of output are taken together. A program that was killed has a negative code. -/
  | exited (code : Int) (output : Text.Bytes)
deriving Repr, DecidableEq

/-- What the programs of a host make of a launch, given where the host stands on its disk. -/
abbrev Launcher : Type := Launch → Location → Disk → Disk × Launched

end Playbook
