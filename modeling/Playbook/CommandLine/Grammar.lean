import Playbook.Text.Quoted
/-!
# Grammars of command lines

What the words of a command line may be, and how they are read. A word with a hyphen in front is an option, by its name
or by the beginning of one long name; a value follows it or is attached with an equals sign. Two hyphens alone
end the options. Words that are neither options nor operands are kept as left over.
-/

namespace Playbook.CommandLine

inductive OptionKind where
  | help
  | toggle
  /-- Any value, or one of the choices if there are some. -/
  | value (choices : List String)
deriving Repr, DecidableEq

structure OptionSpec where
  names : List String
  kind : OptionKind
deriving Repr, DecidableEq

inductive Operand where
  | one (name : String)
  /-- One of the choices, with every word behind it. -/
  | command (name : String) (choices : List String)
deriving Repr, DecidableEq

structure Grammar where
  program : String
  usage : String
  /-- What help says after the usage. -/
  help : String
  options : List OptionSpec
  operand : Option Operand
deriving Repr, DecidableEq

/-- Why a command line is not carried out: help is asked for, or it is wrong. -/
inductive Stop where
  | help (text : String)
  | misuse (text : String)
deriving Repr, DecidableEq

namespace Grammar

def misuse (g : Grammar) (message : String) : Stop := .misuse s!"{g.usage}{g.program}: error: {message}\n"

def helpText (g : Grammar) : String := g.usage ++ g.help

/-! ### Words -/

inductive Word where
  | argument (text : String)
  | separator
  | option (text : String) (spec : OptionSpec) (name : String) (attached : Option String)
  | unknown (text : String)
deriving Repr, DecidableEq

def Word.text : Word → String
  | argument text | option text .. | unknown text => text
  | separator => "--"

def Word.isOption : Word → Bool
  | option .. | unknown _ => true
  | argument _ | separator => false

def find? (g : Grammar) (name : String) : Option OptionSpec := g.options.find? (·.names.contains name)

/-- The text in front of the first equals sign, and the text behind it. -/
def splitValue (cs : List Char) : String × Option String :=
  (String.ofList (cs.takeWhile (· ≠ '=')),
    match cs.dropWhile (· ≠ '=') with
    | _ :: value => some (String.ofList value)
    | [] => none)

/-- The names that a word may be short for, each with the value attached to it. -/
def candidates (g : Grammar) (cs : List Char) : List (OptionSpec × String × Option String) :=
  let named := g.options.flatMap fun o => o.names.map fun name => (o, name)
  if cs.take 2 = ['-', '-'] then
    let (start, attached) := splitValue cs
    (named.filter fun (_, name) => start.toList.isPrefixOf name.toList).map fun (o, name) => (o, name, attached)
  else
    named.filterMap fun (o, name) =>
      if name.toList = cs.take 2 then some (o, name, some (String.ofList (cs.drop 2)))
      else if cs.isPrefixOf name.toList then some (o, name, none)
      else none

def isNegativeNumber (cs : List Char) : Bool :=
  let whole := (cs.drop 1).takeWhile Char.isDigit
  match (cs.drop 1).dropWhile Char.isDigit with
  | [] => !whole.isEmpty
  | '.' :: places => !places.isEmpty && places.all Char.isDigit
  | _ => false

def word (g : Grammar) (text : String) : Except Stop Word :=
  let cs := text.toList
  if cs.head? ≠ some '-' ∨ cs.length = 1 then .ok (.argument text)
  else match g.find? text with
    | some o => .ok (.option text o text none)
    | none =>
      let (start, attached) := splitValue cs
      match attached.bind fun _ => g.find? start with
      | some o => .ok (.option text o start attached)
      | none =>
        match g.candidates cs with
        | [(o, name, attached)] => .ok (.option text o name attached)
        | [] => .ok (if isNegativeNumber cs ∨ cs.contains ' ' then .argument text else .unknown text)
        | several =>
          let names := ", ".intercalate (several.map (·.2.1))
          .error (g.misuse s!"ambiguous option: {text} could match {names}")

/-- Behind the first separator there are only arguments. -/
def words (g : Grammar) : List String → Except Stop (List Word)
  | [] => .ok []
  | text :: rest =>
    if text = "--" then .ok (.separator :: rest.map .argument)
    else do return (← g.word text) :: (← g.words rest)

/-! ### Reading -/

/-- What was read so far. An option is known by the last of its names. -/
structure Given where
  options : List (String × String)
  operands : List String
  leftOver : List String
deriving Repr, DecidableEq

namespace Given

def nothing : Given := ⟨[], [], []⟩

def isGiven (r : Given) (name : String) : Bool := (r.options.lookup name).isSome

/-- The value that was given last. -/
def value? (r : Given) (name : String) : Option String := r.options.reverse.lookup name

end Given

def OptionSpec.key (o : OptionSpec) : String := o.names.getLastD ""

def optionMisuse (g : Grammar) (o : OptionSpec) (message : String) : Stop :=
  let name := "/".intercalate o.names
  g.misuse s!"argument {name}: {message}"

def choiceMessage (choices : List String) (value : String) : String :=
  let shown := ", ".intercalate (choices.map fun (choice : String) => Text.quoted choice)
  s!"invalid choice: {Text.quoted value} (choose from {shown})"

def take (r : Given) (o : OptionSpec) (value : String) : Given :=
  { r with options := r.options ++ [(OptionSpec.key o, value)] }

def takeBare (g : Grammar) (r : Given) (o : OptionSpec) : Except Stop Given :=
  if o.kind = .help then .error (.help g.helpText) else .ok (take r o "")

def takeValue (g : Grammar) (r : Given) (o : OptionSpec) (choices : List String) (value : String) : Except Stop Given :=
  if choices.isEmpty ∨ choices.contains value then .ok (take r o value)
  else .error (g.optionMisuse o (choiceMessage choices value))

def ignored (g : Grammar) (o : OptionSpec) (attached : List Char) : Stop :=
  g.optionMisuse o s!"ignored explicit argument {Text.quoted (String.ofList attached)}"

def OptionSpec.hasValue (o : OptionSpec) : Bool := o.kind matches .value _

/-- Options run together behind the short option `o`; only options without a value can be. -/
def runTogether (g : Grammar) (o : OptionSpec) : List Char → Except Stop (List OptionSpec)
  | [] => .ok []
  | c :: cs =>
    match (g.find? (String.ofList ['-', c])).filter (!OptionSpec.hasValue ·) with
    | some next => do return next :: (← g.runTogether next cs)
    | none => .error (g.ignored o (c :: cs))

/-- An option with a text attached to it: its value, or short options run together with it. -/
def takeAttached (g : Grammar) (r : Given) (o : OptionSpec) (name attached : List Char) : Except Stop Given :=
  match o.kind with
  | .value choices => g.takeValue r o choices (String.ofList attached)
  | _ =>
    if name.take 2 = ['-', '-'] ∨ attached.isEmpty then .error (g.ignored o attached)
    else do (o :: (← g.runTogether o attached)).foldlM g.takeBare r

/-- The operand at the front of the words, if there is one: its words and those behind it. -/
def operandWords : Operand → List Word → Option (List String × List Word)
  | .one _, .argument a :: .separator :: rest => some ([a], rest)
  | .one _, .argument a :: rest => some ([a], rest)
  | .one _, .separator :: .argument a :: rest => some ([a], rest)
  | .command .., ws =>
    match ws with
    | .argument _ :: _ | .separator :: .argument _ :: _ => some (ws.map (·.text), [])
    | _ => none
  | _, _ => none

def checkOperand (g : Grammar) : Operand → List String → Except Stop Unit
  | .command name choices, first :: _ =>
    if choices.contains first then .ok () else .error (g.misuse s!"argument {name}: {choiceMessage choices first}")
  | _, _ => .ok ()

/-- Reads words from left to right, the operand where it comes first. -/
def scan (g : Grammar) : (fuel : Nat) → Given → List Word → Except Stop Given
  | 0, r, _ | _, r, [] => .ok r
  | fuel + 1, r, w :: ws =>
    match w with
    | .unknown text => g.scan fuel { r with leftOver := r.leftOver ++ [text] } ws
    | .option _ o name (some attached) => do g.scan fuel (← g.takeAttached r o name.toList attached.toList) ws
    | .option _ o _ none =>
      match o.kind, ws with
      | .value choices, .argument a :: rest => do g.scan fuel (← g.takeValue r o choices a) rest
      | .value _, _ => .error (g.optionMisuse o "expected one argument")
      | _, _ => do g.scan fuel (← g.takeBare r o) ws
    | .argument _ | .separator =>
      match if r.operands.isEmpty then g.operand.bind fun o => (operandWords o (w :: ws)).map (o, ·) else none with
      | some (o, operands, rest) => do
        g.checkOperand o operands
        g.scan fuel { r with operands := operands } rest
      | none => g.scan fuel { r with leftOver := r.leftOver ++ [w.text] } ws

/-- A single operand has to be there; a command may be missing. -/
def requireOperand (g : Grammar) (r : Given) : Except Stop Given :=
  match g.operand with
  | some (.one name) =>
    if r.operands.isEmpty then .error (g.misuse s!"the following arguments are required: {name}") else .ok r
  | _ => .ok r

def read (g : Grammar) (args : List String) : Except Stop Given := do
  let ws ← g.words args
  g.requireOperand (← g.scan ws.length .nothing ws)

end Grammar

end Playbook.CommandLine
