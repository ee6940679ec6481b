import Playbook.Shell.Launch
/-!
# Running shell scripts

Commands run one after another, with fuel for nesting and for loops. A script that uses up its fuel would go on
without an end.
-/

namespace Playbook.Shell

open Text (Bytes)

def dropLineEnds (b : Bytes) : Bytes := (b.reverse.dropWhile (· = 10)).reverse

def Redirect.isInput : Redirect → Bool
  | .mk _ kind _ => kind == .read || kind == .text

namespace Run

/-! ### Values -/

/-- The value of a parameter; a wary script ends where there is none. -/
def valueOf? (name : String) : Run (Option Bytes) := do
  match ← lookup? name with
  | some value => return some value
  | none =>
    if (← get).isWary then giveUp (← choose s!"{name}: unbound variable" s!"{name}: parameter not set")
    else return none

def valueOf (name : String) : Run Bytes := do return (← valueOf? name).getD []

/-- The value of an expression; what it assigns is kept. -/
def compute (expression : List Char) : Run Int := do
  let p ← get
  let value (name : String) : Int := ((p.bindings.lookup name).bind fun b => Commands.integer? (shown b)).getD 0
  let result := do (Arithmetic.evaluate value (← Arithmetic.parse p.dialect expression)).run []
  match result with
  | .ok (n, given) =>
    given.reverse.forM fun (name, n) => assign name (bytes (toString n))
    return n
  | .error fault => giveUp (fault.text p.dialect expression)

/-- Without quotes the text may be split. -/
def fragmentOf (isQuoted : Bool) (b : Bytes) : Fragment := .text b isQuoted !isQuoted

/-- The pieces of a text that stands in for a value are split as the value would be. -/
def Fragment.asValue : Fragment → Fragment
  | .text b false _ => .text b false true
  | f => f

def markedOf (fs : List Fragment) : Marked := Field.marked (fs.filterMap fun
  | .text b isQuoted _ => some (b, isQuoted)
  | .cut => none)

/-! ### Evaluation -/

mutual

def fragment : (fuel : Nat) → Piece → Run (List Fragment)
  | 0, _ => throw .late
  | fuel + 1, piece => do
    match piece with
    | .literal cs isQuoted => return [.text (Text.encodeUtf8 cs) isQuoted false]
    | .parameter name form isQuoted => parameter fuel name form isQuoted
    | .output commands isQuoted =>
      let ((), b) ← collect (isolate (list fuel commands))
      modify fun p => { p with answer := some p.status }
      return [fragmentOf isQuoted (dropLineEnds b)]
    | .number expression isQuoted =>
      let n ← compute (Text.decodeUtf8Lenient (← text fuel expression))
      return [fragmentOf isQuoted (bytes (toString n))]

def parameter : (fuel : Nat) → (name : String) → Form → (isQuoted : Bool) → Run (List Fragment)
  | 0, _, _, _ => throw .late
  | fuel + 1, name, form, isQuoted => do
    let present (orEmpty : Bool) (value : Option Bytes) : Option Bytes := value.filter fun b => !orEmpty || !b.isEmpty
    match form with
    | .value =>
      if name = "@" ∨ (name = "*" ∧ !isQuoted) then
        return ((← get).args.map (fragmentOf isQuoted)).intersperse .cut
      else return [fragmentOf isQuoted (← valueOf name)]
    | .length =>
      let p ← get
      let value ← valueOf name
      let n := if name = "@" ∨ name = "*" then p.args.length else (Text.decodeUtf8Lenient value).length
      return [fragmentOf isQuoted (bytes (toString n))]
    | .otherwise orEmpty keeps pieces =>
      match present orEmpty (← lookup? name) with
      | some value => return [fragmentOf isQuoted value]
      | none =>
        if keeps then
          let value ← text fuel pieces
          assign name value
          return [fragmentOf isQuoted value]
        else return (← pieces.flatMapM (fragment fuel)).map Fragment.asValue
    | .instead orEmpty pieces =>
      match present orEmpty (← lookup? name) with
      | some _ => return (← pieces.flatMapM (fragment fuel)).map Fragment.asValue
      | none => return [fragmentOf isQuoted []]
    | .required orEmpty pieces =>
      match present orEmpty (← lookup? name) with
      | some value => return [fragmentOf isQuoted value]
      | none =>
        let reason := shown (← text fuel pieces)
        let usual ← if orEmpty then choose "parameter null or not set" "parameter not set or null" else pure "parameter not set"
        let reason := if reason.isEmpty then usual else reason
        giveUp s!"{name}: {reason}"
    | .trim atEnd longest pieces =>
      let pattern := Pattern.ofMarked (markedOf (← pieces.flatMapM (fragment fuel)))
      let cs := Text.decodeUtf8Lenient (← valueOf name)
      let kept := if atEnd then pattern.trimEnd longest cs else pattern.trimStart longest cs
      return [fragmentOf isQuoted (Text.encodeUtf8 kept)]
    | .unknown cs =>
      let shown := "$\x7b" ++ String.ofList cs ++ "\x7d"
      giveUp (← choose s!"{shown}: bad substitution" "Bad substitution")

/-- A word as one text. -/
def text : (fuel : Nat) → Word → Run Bytes
  | 0, _ => throw .late
  | fuel + 1, pieces => do
    return (← pieces.flatMapM (fragment fuel)).flatMap fun
      | .text b _ _ => b
      | .cut => [32]

/-- A word as the fields that it falls into. -/
def fields : (fuel : Nat) → Word → Run (List Bytes)
  | 0, _ => throw .late
  | fuel + 1, word => do
    let home ← lookup "HOME"
    let (front, word) : List Fragment × Word := match word with
      | [.literal ['~'] false] => ([.text home true false], [])
      | .literal ['~'] false :: .literal ['/'] false :: rest => ([.text (home ++ [47]) true false], rest)
      | _ => ([], word)
    let fragments := front ++ (← word.flatMapM (fragment fuel))
    let separators ← separators
    let p ← get
    return (Field.ofFragments separators ⟨none, false⟩ fragments).flatMap (Field.expand p.disk p.cwd)

/-- Redirects, up to a redirection that cannot be made. -/
def redirect : (fuel : Nat) → List Redirect → Run (Option RedirectFault)
  | 0, _ => throw .late
  | _ + 1, [] => return none
  | fuel + 1, .mk channel kind target :: rest => do
    let name ← text fuel target
    match kind with
    | .text => modify ({ · with input := name })
    | .read =>
      match ← slurp name with
      | .ok b => modify ({ · with input := b })
      | .error fault => return some ⟨kind, name, fault⟩
    | .duplicate =>
      let p ← get
      let sink := if name = [49] then p.output else if name = [50] then p.error else .nowhere
      aim channel sink
    | .write | .append =>
      match ← openForWriting name (kind = .append) with
      | .ok sink => aim channel sink
      | .error fault => return some ⟨kind, name, fault⟩
    redirect fuel rest

/-- Runs with redirections in force, or fails where one cannot be made. -/
def redirected : (fuel : Nat) → List Redirect → Run Unit → Run Unit
  | 0, _, _ => throw .late
  | _ + 1, [], run => run
  | fuel + 1, targets, run => do
    let p ← get
    match ← redirect fuel targets with
    | none => run
    | some fault =>
      complainAt (fault.text p.dialect)
      setStatus (← choose 1 2)
    modify fun q =>
      { q with output := p.output, error := p.error, input := if targets.any (·.isInput) then p.input else q.input }

def command : (fuel : Nat) → Command → Run Unit
  | 0, _ => throw .late
  | fuel + 1, c => do
    match c with
    | .simple line assignments words targets =>
      modify ({ · with line := line, answer := none })
      let args ← words.flatMapM (fields fuel)
      match args with
      | [] =>
        assignments.forM fun (name, value) => do assign name (← text fuel value)
        setStatus ((← get).answer.getD 0)
        redirected fuel targets (return)
      | name :: args =>
        if name = bytes "exec" ∧ args.isEmpty then
          if let some fault ← redirect fuel targets then giveUp (fault.text (← get).dialect)
          setStatus 0
        else
          let bindings := (← get).bindings
          let exported := (← get).exported
          assignments.forM fun (name, value) => do assign name (← text fuel value)
          if !assignments.isEmpty then modify ({ · with exported := assignments.map (·.1) ++ exported })
          redirected fuel targets (invoke fuel (shown name) args)
          assignments.forM fun (name, _) => restore name (bindings.lookup name)
          if !assignments.isEmpty then modify ({ · with exported := exported })
      check
    | .not c =>
      let holds ← asTest (command fuel c)
      setStatus (if holds then 1 else 0)
    | .pipe left right =>
      let ((), b) ← collect (isolate (command fuel left))
      let p ← get
      set { p with input := b }
      isolate (command fuel right)
      modify fun q => { q with input := p.input, status := if p.isLinked ∧ q.status = 0 then p.status else q.status }
      check
    | .both left right => if ← asTest (command fuel left) then command fuel right
    | .either left right => if ← asTest (command fuel left) then return else command fuel right
    | .choice test body otherwise =>
      if ← asTest (list fuel test) then list fuel body
      else
        setStatus 0
        list fuel otherwise
    | .loop whileTrue test body =>
      setStatus 0
      loop fuel whileTrue test body 0
    | .each name words body =>
      let values ← words.flatMapM (fields fuel)
      setStatus 0
      each fuel name body values
    | .select word branches =>
      let subject := Text.decodeUtf8Lenient (← text fuel word)
      setStatus 0
      select fuel subject branches
    | .define name body =>
      modify fun p => { p with functions := (name, body) :: p.functions }
      setStatus 0
    | .compute line expression =>
      modify ({ · with line := line })
      let n ← compute (Text.decodeUtf8Lenient (← text fuel expression))
      setStatus (if n = 0 then 1 else 0)
      check
    | .group line isolated body targets =>
      modify ({ · with line := line })
      redirected fuel targets (if isolated then isolate (list fuel body) else list fuel body)
      if isolated then check

def invoke : (fuel : Nat) → String → List Bytes → Run Unit
  | 0, _, _ => throw .late
  | fuel + 1, name, args => do
    let p ← get
    match p.functions.lookup name with
    | some body => call args (command fuel body)
    | none =>
      match name, args with
      | "eval", _ =>
        let lines := Text.decodeUtf8Lenient ([32].intercalate args)
        sourced (if p.dialect = .sh then some name else p.source) (playInside lines p.line ": eval" (list fuel))
      | "exec", name :: args =>
        let name := shown name
        if !name.contains '/' ∧ (program? name).isNone ∧ (dialect? name).isNone then
          complainAt s!"exec: {name}: not found"
          throw (.exit 127)
        launch fuel name args
        throw (.exit (← get).status)
      | "command", name :: args =>
        match shown name with
        | "-v" => setStatus (← point args)
        | "-V" => setStatus (← describe "command" args)
        | name => invoke fuel name args
      | "type", args => setStatus (← describe "type" args)
      | name, args =>
        if name = "." ∨ (name = "source" ∧ p.dialect = .bash) then playFile fuel name args
        else match Commands.find? p.dialect name with
          | some run => setStatus (← sourced (if p.dialect = .sh then none else p.source) (run args))
          | none => launch fuel name args

/-- Runs a program, or another script. -/
def launch : (fuel : Nat) → String → List Bytes → Run Unit
  | 0, _, _ => throw .late
  | fuel + 1, name, args => do
    match program? name, dialect? name with
    | some run, _ => setStatus (← run args)
    | none, some d =>
      if let some call ← scriptCall d name args then call.run (playAll call.lines call.note (list fuel))
    | none, none =>
      match ← programCall? name args with
      | some call => call.run (playAll call.lines call.note (list fuel))
      | none => missing name

/-- Runs the lines of a file in the place of the command that names it. -/
def playFile : (fuel : Nat) → (command : String) → List Bytes → Run Unit
  | 0, _, _ => throw .late
  | fuel + 1, command, args => do
    let p ← get
    match args with
    | [] =>
      if p.dialect = .bash then
        complainAt s!"{command}: filename argument required"
        complain s!"{command}: usage: {command} filename [arguments]"
      setStatus (← choose 2 0)
    | file :: args =>
      if let some lines ← linesOf? command file then
        let own := p.dialect = .bash && !args.isEmpty
        if own then modify ({ · with args := args })
        untilBack (sourced (some (shown file)) (playInside lines 1 "" (list fuel)))
        if own then modify ({ · with args := p.args })

def loop : (fuel : Nat) → Bool → List Command → List Command → (status : Nat) → Run Unit
  | 0, _, _, _, _ => throw .late
  | fuel + 1, whileTrue, test, body, status => do
    if (← asTest (list fuel test)) = whileTrue then
      if ← round (list fuel body) then loop fuel whileTrue test body (← get).status
    else setStatus status

def each : (fuel : Nat) → (name : String) → List Command → List Bytes → Run Unit
  | 0, _, _, _ => throw .late
  | _ + 1, _, _, [] => return
  | fuel + 1, name, body, value :: values => do
    assign name value
    if ← round (list fuel body) then each fuel name body values

/-- Runs the first branch that fits. -/
def select : (fuel : Nat) → List Char → List Branch → Run Unit
  | 0, _, _ => throw .late
  | _ + 1, _, [] => return
  | fuel + 1, subject, .mk patterns body :: others => do
    let fitting ← patterns.anyM fun word => do
      return (Pattern.ofMarked (markedOf (← word.flatMapM (fragment fuel)))).fits subject
    if fitting then list fuel body else select fuel subject others

def list : (fuel : Nat) → List Command → Run Unit
  | 0, _ => throw .late
  | _ + 1, [] => return
  | fuel + 1, c :: cs => do
    command fuel c
    list fuel cs

end

end Run

/-! ### Whole scripts -/

/-- The most levels and rounds that a script is given. -/
def patience : Nat := 100000

structure Outcome where
  disk : Disk
  output : Bytes
  /-- Nothing if the script did not end in time; negative if a signal ended it. -/
  code : Option Int

structure Job where
  dialect : Dialect
  source : List Char
  /-- What the script is called. -/
  script : String
  home : Bytes
  limit : Option TimeLimit

def Job.run (j : Job) (disk : Disk) (cwd : Location) : Outcome :=
  let start : Process :=
    { dialect := j.dialect
      script := j.script
      source := none
      line := 1
      disk := disk
      programs := []
      cwd := cwd
      args := []
      bindings := [("HOME", j.home)]
      exported := ["HOME"]
      functions := []
      buffers := [[]]
      output := .buffer 0
      error := .buffer 0
      input := []
      status := 0
      answer := none
      slept := 0
      limit := j.limit
      isStrict := false
      tests := 0
      isWary := false
      isLinked := false
      loops := 0
      outer := none }
  let run := do
    Run.sleep 0
    Run.playAll j.source "" (Run.list patience)
  let (result, p) := run.run start
  let code : Option Int := match result with
    | .ok () => some p.status
    | .error (.exit code) | .error (.back code) => some code
    | .error (.leave _) | .error (.next _) => some 0
    | .error (.killed signal) => some (-signal)
    | .error .late => none
  ⟨p.disk, Buffer.bytes (p.buffers.headD []), code⟩

/-! ### The shells as programs -/

/-- Where a program works. A directory that is missing counts as a missing program. -/
def directoryOf (l : Launch) (cwd : Location) (disk : Disk) : Except Launched Location :=
  match disk.locatePath cwd l.directory with
  | .error e => .error (if e.fault = .noEntry then .notFound else .refused (.file e))
  | .ok loc =>
    match disk.find? loc with
    | some .directory => .ok loc
    | some (.file _) => .error (.refused (.file ⟨.notDirectory, l.directory⟩))
    | none => .error .notFound

def dialects : List (String × Dialect) := [("bash", .bash), ("sh", .sh)]

/-- A host that has the shells and no other programs. -/
def launch (home : Path) : Launcher := fun l cwd disk =>
  match dialects.lookup l.command, directoryOf l cwd disk, disk.readBytes cwd l.script with
  | none, _, _ => (disk, .notFound)
  | some _, .error stopped, _ => (disk, stopped)
  | some _, .ok _, .error e => (disk, .refused (.file e))
  | some dialect, .ok loc, .ok code =>
    let job : Job := ⟨dialect, Text.decodeUtf8Lenient code, l.script.text.plain, Text.nameBytes home.text, l.limit⟩
    let outcome := job.run disk loc
    (outcome.disk, match outcome.code with
      | some code => .exited code outcome.output
      | none => .timedOut)

end Playbook.Shell
