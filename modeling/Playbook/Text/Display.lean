import Playbook.Text.Json
/-!
# Values in messages

How a value reads inside a sentence: a text as it is, anything else as it would be written down, with texts
inside lists quoted.
-/

namespace Playbook.Json

mutual

def written : Json → String
  | null => "None"
  | bool b => if b then "True" else "False"
  | int n => toString n
  | float x => Number.floatText x
  | str s => Text.quoted s
  | arr items => "[" ++ ", ".intercalate (writtenItems items) ++ "]"
  | obj fields => "\x7b" ++ ", ".intercalate (writtenFields fields) ++ "\x7d"

def writtenItems : List Json → List String
  | [] => []
  | v :: vs => written v :: writtenItems vs

def writtenFields : List (WideString × Json) → List String
  | [] => []
  | (name, v) :: fs => (Text.quoted name ++ ": " ++ written v) :: writtenFields fs

end

def display : Json → WideString
  | str s => s
  | v => written v

end Playbook.Json
