import Playbook.Number.Decimals
import Playbook.Shell.Field
import Playbook.Shell.Print
/-!
# Shell commands

The commands that belong to the shell itself. Each takes its arguments and gives its exit status.
-/

namespace Playbook.Shell.Commands

open Text (Bytes)
open Run

/-! ### Printing -/

def echo (args : List Bytes) : Run Nat := do
  write (Print.echo (← get).dialect args)
  return 0

def printf (args : List Bytes) : Run Nat := do
  let d := (← get).dialect
  match args with
  | [] =>
    if d = .bash then usage else refuse "" "printf: usage: printf format [arg ...]" 2
  | first :: rest =>
    match shown first, rest with
    | "-v", name :: text :: args =>
      if d = .bash then
        assign (shown name) (Print.format d text args).1
        return 0
      else refuse "" "printf: Illegal option -v" 2
    | "--", text :: args => print d text args
    | option, _ =>
      match option.toList with
      | '-' :: c :: _ =>
        let status ← refuse s!"printf: -{c}: invalid option" s!"printf: Illegal option -{c}" 2
        if d = .bash then usage else return status
      | _ => print d first rest
where
  usage : Run Nat := do
    complain "printf: usage: printf [-v var] format [arguments]"
    return 2
  print (d : Dialect) (text : Bytes) (args : List Bytes) : Run Nat := do
    let (b, complaints) := Print.format d text args
    complaints.forM fun c => complainAt s!"printf: {c.text d}"
    write b
    if complaints.any (·.isOfFormat) then choose 1 2 else return if complaints.isEmpty then 0 else 1

def pwd : Run Nat := do
  write (pathOf (← get).cwd ++ [10])
  return 0

/-! ### The process -/

/-- A whole number, with or without a sign. -/
def integer? (text : String) : Option Int :=
  let digits (cs : List Char) : Option Int :=
    if cs.isEmpty || !cs.all Char.isDigit then none else some (Number.natOfDigits cs)
  match (Text.trim text.toList) with
  | '-' :: cs => (digits cs).map (- ·)
  | '+' :: cs => digits cs
  | cs => digits cs

/-- A status that a command was given; the shells allow different numbers. -/
def status? (d : Dialect) (text : String) : Option Nat :=
  (integer? text).bind fun n =>
    let isAllowed := match d with
      | .bash => decide (n.natAbs < Nat.pow 2 63)
      | .sh => decide (0 ≤ n ∧ n < Int.pow 2 31)
    if isAllowed then some (n % 256).toNat else none

def exit (args : List Bytes) : Run Nat := do
  let p ← get
  match args with
  | [] => throw (.exit p.status)
  | arg :: others =>
    let text := shown arg
    match status? p.dialect text with
    | some n =>
      if p.dialect = .bash ∧ !others.isEmpty then
        complainAt "exit: too many arguments"
        throw (.exit 1)
      throw (.exit n)
    | none =>
      complainAt (← choose s!"exit: {text}: numeric argument required" s!"exit: Illegal number: {text}")
      throw (.exit 2)

def signals : List (String × Nat) := [
  ("HUP", 1), ("INT", 2), ("QUIT", 3), ("ILL", 4), ("TRAP", 5), ("ABRT", 6), ("BUS", 7), ("FPE", 8), ("KILL", 9),
  ("USR1", 10), ("SEGV", 11), ("USR2", 12), ("PIPE", 13), ("ALRM", 14), ("TERM", 15), ("STKFLT", 16), ("CHLD", 17),
  ("CONT", 18), ("STOP", 19), ("TSTP", 20), ("TTIN", 21), ("TTOU", 22), ("URG", 23), ("XCPU", 24), ("XFSZ", 25),
  ("VTALRM", 26), ("PROF", 27), ("WINCH", 28), ("IO", 29), ("PWR", 30), ("SYS", 31)]

/-- A signal by its number or its name; one of the shells knows names with the usual beginning. -/
def signal? (d : Dialect) (text : String) : Option Nat :=
  let name := if d = .bash ∧ text.startsWith "SIG" then String.ofList (text.toList.drop 3) else text
  match integer? text with
  | some n => if 0 ≤ n ∧ n ≤ 64 then some n.toNat else none
  | none => signals.lookup name

/-- What a signal does to the script that sends it to itself. -/
def deliver (signal : Nat) : Run Nat := do
  if [0, 17, 18, 23, 28].contains signal then return 0
  if [19, 20, 21, 22].contains signal then throw .late
  if signal = 3 ∧ (← get).dialect = .bash then return 0
  throw (.killed signal)

def kill (args : List Bytes) : Run Nat := do
  let d := (← get).dialect
  match args.map shown with
  | ["-l", n] =>
    let found := (integer? n).bind fun n => signals.find? fun (_, m) => decide ((m : Int) = n % 128)
    match found with
    | some (name, _) =>
      say name
      return 0
    | none => refuse s!"kill: {n}: invalid signal specification" s!"kill: Illegal number: {n}" 1
  | "-s" :: name :: targets => send d name targets s!"invalid signal number or name: {name}"
  | first :: targets =>
    match first.toList with
    | ['-', 'n'] =>
      match d, targets with
      | .bash, name :: targets => send d name targets ""
      | _, _ => refuse "kill: -n: option requires an argument" "kill: Illegal option -n" 2
    | '-' :: name => send d (String.ofList name) targets s!"Illegal option -{String.ofList (name.take 1)}"
    | _ => send d "TERM" (first :: targets) ""
  | [] => send d "TERM" [] ""
where
  send (d : Dialect) (name : String) (targets : List String) (fault : String) : Run Nat := do
    match signal? d name, targets with
    | none, _ => refuse s!"kill: {name}: invalid signal specification" s!"kill: {fault}" 1
    | some _, [] =>
      if d = .bash then
        complain "kill: usage: kill [-s sigspec | -n signum | -sigspec] pid | jobspec ... or kill -l [sigspec]"
        return 2
      else
        refuse "" "kill: Usage: kill [-s sigspec | -signum | -sigspec] [pid | job]... or\nkill -l [exitstatus]" 2
    | some signal, target :: _ =>
      if bytes target = (← lookup "$") then deliver signal
      else if (integer? target).isNone then
        refuse s!"kill: {target}: arguments must be process or job IDs" s!"kill: Illegal number: {target}" 1
      else
        complainAt (← choose s!"kill: ({target}) - No such process" "kill: No such process")
        return 1

/-! ### Loops and functions -/

/-- Out of loops, or on to their next round; outside of loops nothing happens. -/
def leaveLoops (name : String) (stop : Nat → Stop) (args : List Bytes) : Run Nat := do
  let p ← get
  if p.loops = 0 then
    if p.dialect = .bash then complainAt s!"{name}: only meaningful in a `for', `while', or `until' loop"
    return 0
  let wanted := ((args.head?.map shown).bind String.toNat?).getD 1
  throw (stop (min (max wanted 1) p.loops))

def comeBack (args : List Bytes) : Run Nat := do
  let p ← get
  let code := match args with
    | [] => p.status
    | arg :: _ => (((integer? (shown arg)).getD 2) % 256).toNat
  if p.dialect = .sh ∨ p.outer.isSome ∨ p.source.isSome then throw (.back code)
  complainAt "return: can only `return' from a function or sourced script"
  return 2

def own (args : List Bytes) : Run Nat := do
  match (← get).outer with
  | none => refuseOrEnd "local: can only be used in a function" "local: not in a function" 1
  | some _ =>
    args.forM fun arg => do
      let name := shown (arg.takeWhile (· ≠ 61))
      let old := (← get).bindings.lookup name
      modify fun p => { p with outer := p.outer.map ((name, old) :: ·) }
      if arg.contains 61 then assign name ((arg.dropWhile (· ≠ 61)).drop 1) else restore name none
    return 0

def shift (args : List Bytes) : Run Nat := do
  let p ← get
  let n := ((args.head?.map shown).bind String.toNat?).getD 1
  if n ≤ p.args.length then
    MonadState.set { p with args := p.args.drop n }
    return 0
  else if p.dialect = .bash then return 1
  else refuseOrEnd "" "shift: can't shift that many" 1

/-! ### Variables -/

/-- One line of the input, and whether it ended as a line does. -/
def takeLine : Run (Bytes × Bool) := do
  let input := (← get).input
  let line := input.takeWhile (· ≠ 10)
  modify ({ · with input := input.drop (line.length + 1) })
  return (line, line.length < input.length)

/-- Lines that end in a backslash go on with the next one, and other backslashes are dropped. -/
def takeJoined : (fuel : Nat) → Run (Bytes × Bool)
  | 0 => takeLine
  | fuel + 1 => do
    let (line, isWhole) ← takeLine
    let slashes := (line.reverse.takeWhile (· = 92)).length
    if isWhole ∧ slashes % 2 = 1 then
      let (more, isWhole) ← takeJoined fuel
      return (line.dropLast ++ more, isWhole)
    else return (line, isWhole)

def dropBackslashes : Bytes → Bytes
  | 92 :: b :: rest => b :: dropBackslashes rest
  | b :: rest => b :: dropBackslashes rest
  | [] => []

/-- Words for all names but the last, which takes what is left. -/
def spread (isSeparator isBlank : UInt8 → Bool) : List String → Bytes → List (String × Bytes)
  | [], _ => []
  | [name], b => [(name, ((b.dropWhile isBlank).reverse.dropWhile isBlank).reverse)]
  | name :: names, b =>
    let b := b.dropWhile isBlank
    let word := b.takeWhile (!isSeparator ·)
    let rest := (b.drop word.length).dropWhile isBlank
    let rest := if (b.drop word.length).head?.any isBlank then
        (if rest.head?.any isSeparator then rest.tail else rest)
      else rest.tail
    (name, word) :: spread isSeparator isBlank names rest

def read (args : List Bytes) : Run Nat := do
  let args := args.map shown
  let isRaw := args.head? = some "-r"
  let names := if isRaw then args.tail else args
  if names.isEmpty ∧ (← get).dialect = .sh then return ← refuse "" "read: arg count" 2
  let (line, isWhole) ← if isRaw then takeLine else do
    let (line, isWhole) ← takeJoined (← get).input.length
    pure (dropBackslashes line, isWhole)
  let separators ← separators
  let isBlank (b : UInt8) : Bool := separators.contains b && Field.isGap b
  match names with
  | [] => assign "REPLY" line
  | names => (spread separators.contains isBlank names line).forM fun (name, value) => assign name value
  return if isWhole then 0 else 1

def isName (text : String) : Bool :=
  match text.toList with
  | c :: cs => (c.isAlpha || c == '_') && cs.all fun c => c.isAlphanum || c == '_'
  | [] => false

def define (command : String) (args : List Bytes) : Run Nat := do
  let statuses ← args.mapM fun arg => do
    let name := arg.takeWhile (· ≠ 61)
    if isName (shown name) then
      if name.length < arg.length then assign (shown name) (arg.drop (name.length + 1))
      if command = "export" ∨ args.head? = some (bytes "-x") then
        modify fun p => { p with exported := shown name :: p.exported }
      return 0
    else if arg.head? = some 45 then return 0
    else
      refuseOrEnd s!"{command}: `{shown arg}': not a valid identifier" s!"{command}: {shown name}: bad variable name" 1
  return statuses.foldl max 0

def unset (args : List Bytes) : Run Nat := do
  let names := args.map shown
  modify fun p => { p with
    bindings := p.bindings.filter (!names.contains ·.1)
    exported := p.exported.filter (!names.contains ·)
    functions := if names.contains "-f" then p.functions.filter (!names.contains ·.1) else p.functions }
  return 0

/-- Options of the whole script, and its arguments. -/
def configure : List Bytes → Run Nat
  | [] => return 0
  | arg :: args => do
    match (shown arg).toList with
    | ['-', '-'] =>
      modify ({ · with args := args })
      return 0
    | sign :: letters =>
      if sign ≠ '-' ∧ sign ≠ '+' then
        modify ({ · with args := arg :: args })
        return 0
      let isOn := sign == '-'
      modify fun p => { p with
        isStrict := if letters.contains 'e' then isOn else p.isStrict
        isWary := if letters.contains 'u' then isOn else p.isWary }
      match letters.contains 'o', args with
      | true, name :: args =>
        let name := shown name
        if name = "pipefail" ∧ (← get).dialect = .sh then
          return ← refuseOrEnd "" s!"set: Illegal option {sign}o {name}" 2
        modify fun p => { p with
          isStrict := if name = "errexit" then isOn else p.isStrict
          isWary := if name = "nounset" then isOn else p.isWary
          isLinked := if name = "pipefail" then isOn else p.isLinked }
        configure args
      | _, args => configure args
    | [] =>
      modify ({ · with args := arg :: args })
      return 0

/-! ### Tests -/

def entryNamed (name : Bytes) : Run (Option Entry) := do
  let p ← get
  return if name.isEmpty then none else p.disk.stat? p.cwd (path name)

def unary? (test : String) (arg : Bytes) : Run (Option Bool) := do
  let entry ← entryNamed arg
  let p ← get
  let isProgram := (p.disk.locatePath p.cwd (path arg)).toOption.any p.programs.contains
  return match test with
    | "-n" => some !arg.isEmpty
    | "-z" => some arg.isEmpty
    | "-e" | "-a" => some entry.isSome
    | "-f" => some (entry.isSome && entry != some .directory)
    | "-d" => some (entry == some .directory)
    | "-r" | "-w" => some entry.isSome
    | "-x" => some (entry == some .directory || isProgram && entry.isSome)
    | "-s" => some (entry.isSome && entry != some (.file []))
    | "-L" | "-h" | "-p" | "-S" | "-b" | "-c" | "-t" => some false
    | _ => none

def comparison? (test : String) : Option (Int → Int → Bool) :=
  match test with
  | "-eq" => some fun a b => a = b
  | "-ne" => some fun a b => a ≠ b
  | "-lt" => some fun a b => a < b
  | "-le" => some fun a b => a ≤ b
  | "-gt" => some fun a b => a > b
  | "-ge" => some fun a b => a ≥ b
  | _ => none

def isBelow : Bytes → Bytes → Bool
  | [], b => !b.isEmpty
  | _ :: _, [] => false
  | a :: as, b :: bs => a < b || (a == b && isBelow as bs)

/-- Tests by name. Between double brackets the text on the right is a pattern. -/
def test (name : String) : (fuel : Nat) → List Bytes → Run Nat
  | 0, _ => return 2
  | _ + 1, [] => return 1
  | _ + 1, [arg] => return if arg.isEmpty then 1 else 0
  | fuel + 1, [first, arg] => do
    if shown first = "!" then return ← negated fuel [arg]
    match ← unary? (shown first) arg with
    | some b => return if b then 0 else 1
    | none =>
      let isMissing := (comparison? (shown arg)).isSome || ["=", "!="].contains (shown arg)
      refuse s!"{name}: {shown first}: unary operator expected"
        (if isMissing then s!"{name}: {shown arg}: argument expected" else s!"{name}: {shown first}: unexpected operator") 2
  | fuel + 1, [first, operator, second] => do
    let o := shown operator
    match o, comparison? o with
    | "=", _ | "==", _ => answer (same first second)
    | "!=", _ => answer !(same first second)
    | "<", _ => answer (isBelow first second)
    | ">", _ => answer (isBelow second first)
    | "-a", _ | "&&", _ => answer (!first.isEmpty && !second.isEmpty)
    | "-o", _ | "||", _ => answer (!first.isEmpty || !second.isEmpty)
    | _, some compare =>
      match integer? (shown first), integer? (shown second) with
      | some a, some b => answer (compare a b)
      | a, _ =>
        let bad := shown (if a.isNone then first else second)
        refuse s!"{name}: {bad}: integer expression expected" s!"{name}: Illegal number: {bad}" 2
    | _, none =>
      if shown first = "!" then negated fuel [operator, second]
      else if shown first = "(" ∧ shown second = ")" then test name fuel [operator]
      else refuse s!"{name}: {o}: binary operator expected" s!"{name}: {shown first}: unexpected operator" 2
  | fuel + 1, args@(first :: rest) => do
    let isOne (names : List String) (arg : Bytes) : Bool := names.contains (shown arg)
    let left := args.takeWhile (!isOne ["-o", "||"] ·)
    let right := args.drop (left.length + 1)
    if left.length < args.length then
      let a ← test name fuel left
      if a = 0 then return 0 else test name fuel right
    else
      let left := args.takeWhile (!isOne ["-a", "&&"] ·)
      let right := args.drop (left.length + 1)
      if left.length < args.length then
        let a ← test name fuel left
        if a = 0 then test name fuel right else return a
      else if shown first = "!" then negated fuel rest
      else if shown first = "(" ∧ args.getLast? = some (bytes ")") then test name fuel rest.dropLast
      else refuse s!"{name}: too many arguments" s!"{name}: {shown first}: unexpected operator" 2
where
  answer (b : Bool) : Run Nat := return if b then 0 else 1
  same (a b : Bytes) : Bool :=
    if name = "[[" then (Pattern.ofMarked ((Text.decodeUtf8Lenient b).map (·, true))).fits (Text.decodeUtf8Lenient a)
    else a = b
  negated (fuel : Nat) (args : List Bytes) : Run Nat := do
    let status ← test name fuel args
    return if status = 0 then 1 else if status = 1 then 0 else status

/-- A test in brackets, which have to be closed. -/
def bracketed (opening closing : String) (args : List Bytes) : Run Nat := do
  if args.getLast? = some (bytes closing) then test opening (args.length + 1) args.dropLast
  else refuse s!"{opening}: missing `{closing}'" s!"{opening}: missing {closing}" 2

/-! ### Directories -/

def cd (args : List Bytes) : Run Nat := do
  let p ← get
  let (target, isShown) ← match args with
    | [] => do pure (← lookup "HOME", false)
    | [45] :: _ => do pure (← lookup "OLDPWD", true)
    | arg :: others =>
      if !others.isEmpty ∧ p.dialect = .bash then
        complainAt "cd: too many arguments"
        return 1
      pure (arg, false)
  match (p.disk.locatePath p.cwd (path target)).mapError (·.fault) with
  | .ok loc =>
    match p.disk.find? loc with
    | some .directory =>
      assign "OLDPWD" (← lookup "PWD")
      modify ({ · with cwd := loc })
      if isShown then pwd else return 0
    | some (.file _) => fail target .notDirectory
    | none => fail target .noEntry
  | .error fault => fail target fault
where
  fail (target : Bytes) (fault : FileFault) : Run Nat :=
    refuse s!"cd: {shown target}: {fault.text}" s!"cd: can't cd to {shown target}" 1

/-! ### All of them -/

def find? (d : Dialect) (name : String) : Option (List Bytes → Run Nat) :=
  match name with
  | ":" | "true" | "wait" | "trap" => some fun _ => return 0
  | "false" => some fun _ => return 1
  | "echo" => some echo
  | "printf" => some printf
  | "pwd" => some fun _ => pwd
  | "exit" => some exit
  | "kill" => some kill
  | "break" => some (leaveLoops "break" .leave)
  | "continue" => some (leaveLoops "continue" .next)
  | "return" => some comeBack
  | "local" => some own
  | "shift" => some shift
  | "read" => some read
  | "export" | "readonly" => some (define name)
  | "declare" | "typeset" => if d = .bash then some (define name) else none
  | "unset" => some unset
  | "set" => some configure
  | "test" => some fun args => test "test" (args.length + 1) args
  | "[" => some (bracketed "[" "]")
  | "[[" => if d = .bash then some (bracketed "[[" "]]") else none
  | "cd" => some cd
  | "umask" => some fun args => do
    if args.isEmpty then say "0022"
    return 0
  | _ => none

end Playbook.Shell.Commands
