import Playbook.Failure
import Playbook.Text.Json
/-!
# HTTP answers

What a server answers to one request, and what a library for HTTP makes of values, bodies and statuses.
-/

namespace Playbook.Http

open Text (Bytes)

/-- A response that never came, or one with a status and a body. -/
inductive Outcome where
  | unreachable (text : WideString)
  | response (status : Nat) (body : Bytes)
deriving Repr, DecidableEq

def Outcome.isTransient : Outcome → Bool
  | unreachable _ => true
  | response .. => false

def isSuccess (status : Nat) : Bool := status / 100 == 2

/-- An error that is none of the library's own. -/
structure Foreign where
  fault : HostFault
  text : WideString
deriving Repr, DecidableEq

def Foreign.failure (e : Foreign) : Failure := .host e.fault e.text

structure Library where
  /-- What is wrong with a value that is to be sent, if it cannot be written down. -/
  unsendable? : Json → Option Foreign
  /-- Reads the body of an answer. -/
  read : Bytes → Except Foreign Json
  /-- The message for a status that is no success, and for the address that was asked. -/
  statusText : Nat → String → WideString

end Playbook.Http
