import Playbook.Shell.Commands
/-!
# Utilities

Programs that scripts expect to find: they list, copy and remove files, and they count, cut and sort lines.
Unlike the commands of the shell they name only themselves when they complain.
-/

namespace Playbook.Shell.Utilities

open Text (Bytes)
open Run

/-! ### Arguments -/

/-- Options in front of file names. -/
def options (args : List Bytes) : List Char × List Bytes :=
  let isOption (arg : Bytes) : Bool := arg.head? = some 45 && arg.length > 1
  let flags := args.takeWhile isOption
  let names := args.drop flags.length
  (flags.flatMap fun arg => Text.decodeUtf8Lenient (arg.drop 1), names)

/-- Does something for each name and fails if any of them does. -/
def forAll (names : List Bytes) (act : Bytes → Run (Option String)) : Run Nat := do
  let failures ← names.mapM fun name => do
    match ← act name with
    | some complaint =>
      complain complaint
      return true
    | none => return false
  return if failures.any id then 1 else 0

def missingOperand (name : String) : Run Nat := do
  complain s!"{name}: missing operand"
  complain s!"Try '{name} --help' for more information."
  return 1

def locate (name : Bytes) : Run (Except FileFault Location) := do
  let p ← get
  return (p.disk.locatePath p.cwd (path name)).mapError (·.fault)

/-- What is there under a name. -/
def entry? (name : Bytes) : Run (Except FileFault (Location × Entry)) := do
  match ← locate name with
  | .error fault => return .error fault
  | .ok loc =>
    match (← get).disk.find? loc with
    | some e => return .ok (loc, e)
    | none => return .error .noEntry

/-- The whole input, which then is used up. -/
def takeInput : Run Bytes := do
  let input := (← get).input
  modify ({ · with input := [] })
  return input

/-- The contents of the files, or of the input if there are none, one after another. -/
def contents (name : String) (names : List Bytes) (use : Bytes → Bytes → Run Unit) : Run Nat := do
  if names.isEmpty then
    use [] (← takeInput)
    return 0
  forAll names fun file => do
    if file = [45] then
      use file (← takeInput)
      return none
    match ← slurp file with
    | .ok b =>
      use file b
      return none
    | .error fault => return some s!"{name}: {shown file}: {fault.text}"

/-! ### Lines -/

/-- Lines with their ends; the last one may have none. -/
def lines (b : Bytes) : List Bytes :=
  let pieces := b.splitOn 10
  let whole := pieces.dropLast.map (· ++ [10])
  match pieces.getLast? with
  | some [] | none => whole
  | some last => whole ++ [last]

def cat (args : List Bytes) : Run Nat := contents "cat" (options args).2 fun _ b => write b

/-- A count among the arguments, as in `-n 3`, `-n3` or `-3`, and the names behind it. -/
def countOption (args : List Bytes) : Option (Char × String) × List Bytes :=
  match args with
  | arg :: rest =>
    match (shown arg).toList, rest with
    | ['-', c], count :: names => if c = 'n' ∨ c = 'c' then (some (c, shown count), names) else digits c [] rest
    | '-' :: c :: cs, _ => if c = 'n' ∨ c = 'c' then (some (c, String.ofList cs), rest) else digits c cs rest
    | _, _ => (none, args)
  | [] => (none, [])
where
  digits (c : Char) (cs : List Char) (names : List Bytes) : Option (Char × String) × List Bytes :=
    if (c :: cs).all Char.isDigit then (some ('n', String.ofList (c :: cs)), names) else (none, names)

def head (args : List Bytes) : Run Nat := do
  let (count, names) := countOption args
  match count, names with
  | some ('c', n), [name] =>
    if shown name = "/dev/zero" then
      write (List.replicate (n.toNat?.getD 10) 0)
      return 0
  | _, _ => pure ()
  contents "head" names fun _ b =>
    match count with
    | some ('c', n) => write (b.take (n.toNat?.getD 10))
    | some (_, n) => write ((lines b).take (n.toNat?.getD 10)).flatten
    | none => write ((lines b).take 10).flatten

def tail (args : List Bytes) : Run Nat := do
  let (count, names) := countOption args
  contents "tail" names fun _ b =>
    let all := lines b
    let last (n : Nat) : Run Unit := write (all.drop (all.length - n)).flatten
    match count with
    | some ('c', n) => write (b.drop (b.length - n.toNat?.getD 10))
    | some (_, n) =>
      match n.toList with
      | '+' :: cs => write (all.drop (Number.natOfDigits cs - 1)).flatten
      | _ => last (n.toNat?.getD 10)
    | none => last 10

/-- The number of words, which blanks part. -/
def countWords : (inWord : Bool) → Bytes → Nat
  | _, [] => 0
  | inWord, b :: rest =>
    if b = 32 ∨ (9 ≤ b ∧ b ≤ 13) then countWords false rest
    else (if inWord then 0 else 1) + countWords true rest

/-- Lines, words, characters and bytes, as far as they are asked for. -/
def counts (flags : List Char) (b : Bytes) : List Nat :=
  let flags := if flags.isEmpty then ['l', 'w', 'c'] else flags
  let count (flag : Char) (n : Nat) : List Nat := if flags.contains flag then [n] else []
  count 'l' (b.count 10) ++ count 'w' (countWords false b) ++ count 'm' (Text.decodeUtf8Lenient b).length
    ++ count 'c' b.length

def aligned (width n : Nat) : String := "".pushn ' ' (width - (toString n).length) ++ toString n

def wc (args : List Bytes) : Run Nat := do
  let (flags, names) := options args
  let rowWith (width : Nat) (ns : List Nat) (name : Bytes) : Run Unit :=
    say (" ".intercalate (ns.map (aligned width)) ++ if name.isEmpty then "" else " " ++ shown name)
  if names.isEmpty then
    let ns := counts flags (← takeInput)
    rowWith (if ns.length = 1 then 1 else 7) ns []
    return 0
  let sizes ← names.filterMapM fun name => do return (← slurp name).toOption.map (·.length)
  let isSingle := names.length = 1 && (counts flags []).length = 1
  let width := if isSingle then 1 else (toString (sizes.foldl (· + ·) 0)).length
  let status ← contents "wc" names fun name b => rowWith width (counts flags b) name
  if names.length > 1 then
    let all ← names.filterMapM fun name => do return (← slurp name).toOption
    let sum := (all.map (counts flags)).foldl (fun a b => a.zipWith (· + ·) b) (counts flags [])
    rowWith width sum (bytes "total")
  return status

/-- The number that a line begins with. -/
def leadingNumber (line : Bytes) : Int :=
  let cs := (Text.decodeUtf8Lenient line).dropWhile fun c => c == ' ' || c == '\t'
  match cs with
  | '-' :: cs => -(Number.natOfDigits (cs.takeWhile Char.isDigit) : Int)
  | cs => (Number.natOfDigits (cs.takeWhile Char.isDigit) : Int)

def dropRepeated : List Bytes → List Bytes
  | a :: b :: rest => if a = b then dropRepeated (b :: rest) else a :: dropRepeated (b :: rest)
  | rest => rest

def ended (line : Bytes) : Bytes := if line.getLast? = some 10 then line else line ++ [10]

def sort (args : List Bytes) : Run Nat := do
  let (flags, names) := options args
  let p ← get
  let n := p.buffers.length
  MonadState.set { p with buffers := p.buffers ++ [[]] }
  let status ← contents "sort" names fun _ b => writeTo (.buffer n) ((lines b).map ended).flatten
  let all := Buffer.bytes (((← get).buffers[n]?).getD [])
  modify fun q => { q with buffers := q.buffers.take n }
  let inOrder (a b : Bytes) : Bool :=
    let byText := !Commands.isBelow b a
    if flags.contains 'n' then
      let m := leadingNumber a
      let n := leadingNumber b
      decide (m < n) || (m == n && byText)
    else byText
  let sorted := (lines all).mergeSort inOrder
  let sorted := if flags.contains 'r' then sorted.reverse else sorted
  write (if flags.contains 'u' then dropRepeated sorted else sorted).flatten
  return if status = 0 then 0 else 2

def uniq (args : List Bytes) : Run Nat :=
  contents "uniq" (options args).2 fun _ b => write (dropRepeated ((lines b).map ended)).flatten

def tee (args : List Bytes) : Run Nat := do
  let (flags, names) := options args
  let input ← takeInput
  write input
  forAll names fun name => do
    match ← openForWriting name (flags.contains 'a') with
    | .ok sink =>
      writeTo sink input
      return none
    | .error fault => return some s!"tee: {shown name}: {fault.text}"

/-! ### Characters -/

/-- The characters of a set, with ranges and the names of classes. -/
def characterSet : (fuel : Nat) → List Char → List Char
  | 0, _ | _, [] => []
  | fuel + 1, '[' :: ':' :: cs =>
    let name := cs.takeWhile (· ≠ ':')
    let rest := cs.drop (name.length + 2)
    let between (a b : Char) : List Char := (List.range (b.toNat + 1 - a.toNat)).map fun i => Char.ofNat (a.toNat + i)
    match String.ofList name with
    | "upper" => between 'A' 'Z' ++ characterSet fuel rest
    | "lower" => between 'a' 'z' ++ characterSet fuel rest
    | "digit" => between '0' '9' ++ characterSet fuel rest
    | "alpha" => between 'A' 'Z' ++ between 'a' 'z' ++ characterSet fuel rest
    | "alnum" => between '0' '9' ++ between 'A' 'Z' ++ between 'a' 'z' ++ characterSet fuel rest
    | "space" => ['\t', '\n', '\x0b', '\x0c', '\r', ' '] ++ characterSet fuel rest
    | _ => '[' :: characterSet fuel (':' :: cs)
  | fuel + 1, '\\' :: c :: cs =>
    let octal := ((c :: cs).take 3).takeWhile fun c => '0' ≤ c && c ≤ '7'
    if octal.isEmpty then
      let meant := match c with
        | 'a' => '\x07'
        | 'b' => '\x08'
        | 'f' => '\x0c'
        | 'n' => '\n'
        | 'r' => '\r'
        | 't' => '\t'
        | 'v' => '\x0b'
        | c => c
      meant :: characterSet fuel cs
    else
      Char.ofNat (octal.foldl (fun n c => n * 8 + (c.toNat - 48)) 0) :: characterSet fuel ((c :: cs).drop octal.length)
  | fuel + 1, a :: '-' :: b :: cs =>
    (List.range (b.toNat + 1 - a.toNat)).map (fun i => Char.ofNat (a.toNat + i)) ++ characterSet fuel cs
  | fuel + 1, c :: cs => c :: characterSet fuel cs

def tr (args : List Bytes) : Run Nat := do
  let (flags, names) := options args
  let sets := names.map fun name =>
    let cs := Text.decodeUtf8Lenient name
    characterSet cs.length cs
  let input := Text.decodeUtf8Lenient (← takeInput)
  match sets with
  | [] => missingOperand "tr"
  | source :: others =>
    let isIn (c : Char) : Bool := source.contains c != (flags.contains 'c' || flags.contains 'C')
    let images := others.headD []
    let replaced (c : Char) : Char :=
      if isIn c then
        let i := if source.contains c then source.idxOf c else images.length
        (images[i]?).getD (images.getLast?.getD c)
      else c
    let output := if flags.contains 'd' then input.filter (!isIn ·) else input.map replaced
    let isSingled (c : Char) : Bool :=
      flags.contains 's' && (if others.isEmpty then !flags.contains 'd' && isIn c else images.contains c)
    let kept := output.foldl (fun kept c => if isSingled c && kept.head? == some c then kept else c :: kept) []
    write (Text.encodeUtf8 kept.reverse)
    return 0

/-! ### Paths -/

def baseName (name : String) : String :=
  let cs := (name.toList.reverse.dropWhile (· == '/')).reverse
  if cs.isEmpty ∧ !name.isEmpty then "/" else String.ofList (cs.reverse.takeWhile (· ≠ '/')).reverse

def basename (args : List Bytes) : Run Nat := do
  match args.map shown with
  | [] => missingOperand "basename"
  | name :: rest =>
    let base := baseName name
    let suffix := rest.headD ""
    let kept := if base.endsWith suffix ∧ base ≠ suffix then String.ofList (base.toList.take (base.length - suffix.length)) else base
    say kept
    return 0

def dirname (args : List Bytes) : Run Nat := do
  if args.isEmpty then return ← missingOperand "dirname"
  args.forM fun arg => do
    let dropSlashes (cs : List Char) : List Char := cs.dropWhile (· == '/')
    let cs := (shown arg).toList.reverse
    let above := dropSlashes ((dropSlashes cs).dropWhile (· ≠ '/'))
    say (if !above.isEmpty then String.ofList above.reverse
      else if cs.getLast? = some '/' then "/" else ".")
  return 0

/-! ### Files and directories -/

def rm (args : List Bytes) : Run Nat := do
  let (flags, names) := options args
  let isDeep := flags.contains 'r' || flags.contains 'R'
  forAll names fun name => do
    match ← entry? name with
    | .error fault =>
      return if flags.contains 'f' ∧ fault = .noEntry then none else some s!"rm: cannot remove '{shown name}': {fault.text}"
    | .ok (loc, .directory) =>
      if !isDeep then return some s!"rm: cannot remove '{shown name}': {FileFault.text .isDirectory}"
      modify fun p => { p with disk := ⟨p.disk.entries.filter fun (l, _) => !loc.isPrefixOf l⟩ }
      return none
    | .ok (loc, .file _) =>
      modify fun p => { p with disk := p.disk.remove loc }
      return none

def rmdir (args : List Bytes) : Run Nat :=
  forAll (options args).2 fun name => do
    let fail (reason : String) : Run (Option String) := return some s!"rmdir: failed to remove '{shown name}': {reason}"
    match ← entry? name with
    | .error fault => fail fault.text
    | .ok (_, .file _) => fail (FileFault.text .notDirectory)
    | .ok (loc, .directory) =>
      if !((← get).disk.names loc).isEmpty then return ← fail "Directory not empty"
      modify fun p => { p with disk := p.disk.remove loc }
      return none

def mkdir (args : List Bytes) : Run Nat := do
  let (flags, names) := options args
  forAll names fun name => do
    let p ← get
    let (disk, made) :=
      if flags.contains 'p' then p.disk.ensureDirectory p.cwd (path name) (name.length + 1)
      else match p.disk.makeDirectory p.cwd (path name) with
        | .ok disk => (disk, .ok ())
        | .error e => (p.disk, .error e)
    MonadState.set { p with disk := disk }
    return match made with
      | .ok () => none
      | .error e => some s!"mkdir: cannot create directory ‘{shown name}’: {e.fault.text}"

def touch (args : List Bytes) : Run Nat :=
  forAll (options args).2 fun name => do
    match ← openForWriting name true with
    | .ok _ => return none
    | .error fault => return if fault = .isDirectory then none else some s!"touch: cannot touch '{shown name}': {fault.text}"

def ls (args : List Bytes) : Run Nat := do
  let (flags, names) := options args
  let isShown (name : Bytes) : Bool := flags.contains 'a' || flags.contains 'A' || name.head? ≠ some 46
  let many := names.length > 1
  let status ← forAll (if names.isEmpty then [bytes "."] else names) fun name => do
    match ← entry? name with
    | .ok (loc, .directory) =>
      if many then say s!"{shown name}:"
      if flags.contains 'a' then [".", ".."].forM say
      (((← get).disk.names loc).filter isShown).forM fun name => write (name ++ [10])
      return none
    | .ok (_, .file _) =>
      write (name ++ [10])
      return none
    | .error fault => return some s!"ls: cannot access '{shown name}': {fault.text}"
  return if status = 0 then 0 else 2

/-- Where a file goes: under its own name into a directory, or under the new name. -/
def destination (source target : Bytes) : Run Bytes := do
  match ← entry? target with
  | .ok (_, .directory) =>
    let front := if target.getLast? = some 47 then target else target ++ [47]
    return front ++ bytes (baseName (shown source))
  | _ => return target

/-- Everything that stands at a location, under the new one. -/
def duplicate (d : Disk) (source target : Location) : Disk :=
  d.entries.foldl (fun d (l, e) =>
    if source.isPrefixOf l then d.put (target ++ l.drop source.length) e else d) d

def cp (args : List Bytes) : Run Nat := do
  let (flags, names) := options args
  let isDeep := flags.contains 'r' || flags.contains 'R' || flags.contains 'a'
  match names.getLast? with
  | none => missingOperand "cp"
  | some target =>
    forAll names.dropLast fun source => do
      match ← entry? source with
      | .error fault => return some s!"cp: cannot stat '{shown source}': {fault.text}"
      | .ok (loc, e) =>
        if e = .directory ∧ !isDeep then return some s!"cp: -r not specified; omitting directory '{shown source}'"
        let name ← destination source target
        match ← locate name with
        | .error fault => return some s!"cp: cannot create regular file '{shown name}': {fault.text}"
        | .ok there =>
          modify fun p => { p with disk := duplicate p.disk loc there }
          return none

def mv (args : List Bytes) : Run Nat := do
  let (_, names) := options args
  match names.getLast? with
  | none => missingOperand "mv"
  | some target =>
    forAll names.dropLast fun source => do
      match ← entry? source with
      | .error fault => return some s!"mv: cannot stat '{shown source}': {fault.text}"
      | .ok (loc, _) =>
        let name ← destination source target
        match ← locate name with
        | .error fault => return some s!"mv: cannot move '{shown source}' to '{shown name}': {fault.text}"
        | .ok there =>
          if there ≠ loc then
            modify fun p => { p with
              disk := ⟨(duplicate p.disk loc there).entries.filter fun (l, _) => there.isPrefixOf l || !loc.isPrefixOf l⟩ }
          return none

/-- Whether files that are given this mode can be run afterwards; nothing if the mode leaves that as it is. -/
def makesProgram? (mode : String) : Option Bool :=
  let cs := mode.toList
  if cs.all Char.isDigit then some (cs.any fun c => c.toNat % 2 = 1)
  else if cs.contains '=' then some (cs.contains 'x')
  else if cs.contains 'x' then some (cs.contains '+')
  else none

def chmod (args : List Bytes) : Run Nat := do
  match args with
  | [] => missingOperand "chmod"
  | [mode] =>
    complain s!"chmod: missing operand after ‘{shown mode}’"
    complain "Try 'chmod --help' for more information."
    return 1
  | mode :: names =>
    forAll names fun name => do
      match ← entry? name with
      | .error fault => return some s!"chmod: cannot access '{shown name}': {fault.text}"
      | .ok (loc, _) =>
        if let some isProgram := makesProgram? (shown mode) then
          modify fun p => { p with
            programs := if isProgram then loc :: p.programs else p.programs.filter (· ≠ loc) }
        return none

/-! ### Numbers and time -/

def seq (args : List Bytes) : Run Nat := do
  let count (first step last : Int) : Run Nat := do
    let n := if step = 0 then 0 else ((last - first).fdiv step + 1).toNat
    (List.range n).forM fun i => say (toString (first + step * i))
    return 0
  match args.map (Commands.integer? ∘ shown) with
  | [some last] => count 1 1 last
  | [some first, some last] => count first 1 last
  | [some first, some step, some last] => count first step last
  | [] => missingOperand "seq"
  | _ =>
    let bad := (args.find? fun arg => (Commands.integer? (shown arg)).isNone).getD []
    complain s!"seq: invalid floating point argument: ‘{shown bad}’"
    complain "Try 'seq --help' for more information."
    return 1

/-- A time as a number with a letter for its unit. -/
def micros? (cs : List Char) : Option Nat :=
  match cs.getLast? with
  | some 's' => Number.micros? cs.dropLast
  | some 'm' => (Number.micros? cs.dropLast).map (· * 60)
  | some 'h' => (Number.micros? cs.dropLast).map (· * 3600)
  | some 'd' => (Number.micros? cs.dropLast).map (· * 86400)
  | _ => Number.micros? cs

def sleep (args : List Bytes) : Run Nat := do
  match args with
  | [] => missingOperand "sleep"
  | arg :: _ =>
    match micros? (Text.decodeUtf8Lenient arg) with
    | some n =>
      Run.sleep n
      return 0
    | none =>
      complain s!"sleep: invalid time interval ‘{shown arg}’"
      complain "Try 'sleep --help' for more information."
      return 1

/-! ### All of them -/

def all : List (String × (List Bytes → Run Nat)) := [
  ("cat", cat), ("head", head), ("tail", tail), ("wc", wc), ("sort", sort), ("uniq", uniq), ("tee", tee), ("tr", tr),
  ("basename", basename), ("dirname", dirname), ("rm", rm), ("rmdir", rmdir), ("mkdir", mkdir), ("touch", touch),
  ("ls", ls), ("cp", cp), ("mv", mv), ("seq", seq), ("sleep", sleep), ("chmod", chmod),
  ("echo", Commands.echo), ("printf", Commands.printf), ("pwd", fun _ => Commands.pwd), ("true", fun _ => return 0),
  ("false", fun _ => return 1), ("test", fun args => Commands.test "test" (args.length + 1) args)]

end Playbook.Shell.Utilities
