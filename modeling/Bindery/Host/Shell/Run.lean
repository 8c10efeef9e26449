import Bindery.Host.Shell.Builtin
import Bindery.Host.Shell.Reading
import Bindery.Host.Shell.Tool

/-!
# Bindery — Host — Shell — Run

Running commands.  `run` and `expand` call each other, a number of steps deep at most: a command
that would take more ends the shell.  Every command leaves its status in the shell.
-/

namespace Bindery.Shell

open Bindery.Text

/-- Runs a command; when it is `tested`, its failure does not end the shell. -/
abbrev Run := Bool → Command → Work Unit

namespace Run

/-- Leaves a status behind. -/
def setStatus (status : Nat) : Work Unit := modify fun p => { p with status }

/-- Ends a shell that ends on failures, after one. -/
def endOnFailure (tested : Bool) : Work Unit := do
  let p ← get
  if p.endsOnFailure && !tested && p.status ≠ 0 then throw (.ended p.status)

/-- Why a redirection cannot be made. -/
def openFault (verb : String) (path : String) (fault : FileFault) : String :=
  let reason := match fault with
    | .missing | .notDirectory => if verb = "open" then "No such file" else "Directory nonexistent"
    | fault => fault.message
  "cannot " ++ verb ++ " " ++ path ++ ": " ++ reason

/-- Lets a descriptor read from a file. -/
def openForReading (descriptor : Nat) (path : String) : Work (Option String) := do
  let p ← get
  if path = "/dev/null" then
    set (p.openChannel descriptor .nothing)
    return none
  match p.walk path with
  | .error fault => return some (openFault "open" path fault)
  | .ok place =>
    match place, p.files.itemAt? place with
    | .inside names, some (.file _) =>
      set (p.openChannel descriptor (.file names 0))
      return none
    | _, some _ =>
      set (p.openChannel descriptor (.given ""))
      return none
    | _, none => return some (openFault "open" path .missing)

/-- Lets a descriptor lead where another one does. -/
def copyDescriptor (descriptor source : Nat) : Work (Option String) := do
  let p ← get
  match p.descriptors.lookup source with
  | some i =>
    let others := p.descriptors.filter fun d => d.1 ≠ descriptor
    set { p with descriptors := (descriptor, i) :: others }
    return none
  | none => return some (decimal source ++ ": Bad file descriptor")

/-- Lets a descriptor write into a file, which is emptied unless `keeps`; writing starts at its
end when `atEnd`. -/
def openForWriting (descriptor : Nat) (path : String) (keeps atEnd : Bool) :
    Work (Option String) := do
  let p ← get
  if path = "/dev/null" then
    set (p.openChannel descriptor .nothing)
    return none
  if path = "/dev/stdout" then return ← copyDescriptor descriptor 1
  if path = "/dev/stderr" then return ← copyDescriptor descriptor 2
  match p.walk path with
  | .error fault => return some (openFault "create" path fault)
  | .ok .outside => return some (openFault "create" path .isDirectory)
  | .ok (.inside names) =>
    match p.files.item? names.dropLast, p.files.item? names with
    | some .directory, some .directory => return some (openFault "create" path .isDirectory)
    | some .directory, old =>
      let bytes := match old with
        | some (.file bytes) => if keeps then bytes else []
        | _ => []
      let p := { p with files := p.files.put names (.file bytes) }
      set (p.openChannel descriptor (.file names (if atEnd then bytes.length else 0)))
      return none
    | _, _ => return some (openFault "create" path .missing)

/-- Makes a redirection; what is said when it cannot be made. -/
def redirect (expand : Expand) (r : Redirection) : Work (Option String) := do
  match r with
  | ⟨descriptor, mode, target⟩ =>
    let s ← wordText expand target
    match mode with
    | .read => openForReading descriptor s
    | .write => openForWriting descriptor s false false
    | .append => openForWriting descriptor s true true
    | .both => openForWriting descriptor s true false
    | .text =>
      modify fun p => p.openChannel descriptor (.given s)
      return none
    | .copy =>
      if s = "-" then
        modify fun p => { p with descriptors := p.descriptors.filter fun d => d.1 ≠ descriptor }
        return none
      else
        match Builtin.natural? s with
        | some source => copyDescriptor descriptor source
        | none => return some "Syntax error: Bad fd number"

/-- Makes redirections up to the first that cannot be made. -/
def redirectAll (expand : Expand) : List Redirection → Work (Option String)
  | [] => return none
  | r :: rest => do
    match ← redirect expand r with
    | some s => return some s
    | none => redirectAll expand rest

/-- Does work with redirections, which end with it. -/
def redirected (expand : Expand) (line : Nat) (rs : List Redirection) (fatal : Bool)
    (w : Work Unit) : Work Unit := do
  let before := (← get).descriptors
  match ← redirectAll expand rs with
  | some s =>
    modify fun p => { p with line }
    Work.complain s
    modify fun p => { p with descriptors := before, status := 2 }
    if fatal then throw (.ended 2)
  | none => fun p =>
    let (r, q) := w p
    (r, { q with descriptors := before })

/-- Runs the commands of a text, line by line. -/
def text (run : Run) (label : String) : Nat → Source → Work Unit
  | 0, _ => throw (.ended 2)
  | fuel + 1, source => do
    match Reading.nextLine source with
    | (.ok (some c), source) =>
      run false c
      text run label fuel source
    | (.ok none, _) => return ()
    | (.error fault, source) =>
      modify fun p => { p with line := source.line }
      Work.fail (label ++ fault.message)

/-- Runs the commands of a text. -/
def wholeText (run : Run) (label : String) (s : String) : Work Unit := do
  text run label (s.length + 2) ⟨s.toList, 1⟩

/-- Carries out what was set for the end of a shell. -/
def atExit (run : Run) (w : Work Unit) : Work Unit := fun p =>
  let (r, q) := w p
  match r, q.atExit with
  | .error (.killed signal), _ => (.error (.killed signal), q)
  | r, none => (r, q)
  | r, some action =>
    let status := match r with
      | .error (.ended n) => n
      | .error (.returned n) => n
      | _ => q.status
    let (last, q) := wholeText run "" action { q with atExit := none, status }
    match last with
    | .error j => (.error j, q)
    | .ok () => (.error (.ended status), q)

/-- Runs a function with arguments, and puts its variables back as they were. -/
def call (run : Run) (body : Command) (args : List String) : Work Unit := fun p =>
  let inner := { p with arguments := args, saved := [] :: p.saved, loops := 0 }
  let (r, q) := run false body inner
  let own := q.saved.headD []
  let q := own.foldl (fun q (name, v) => q.restore name v) q
  let q := { q with arguments := p.arguments, saved := p.saved, loops := p.loops }
  match r with
  | .error (.returned status) => (.ok (), { q with status })
  | r => (r, q)

/-- Whether programs are found by their names. -/
def findsPrograms (p : Process) : Bool :=
  ((p.valueOf "PATH").splitOn ":").any fun d => d = "/bin" || d = "/usr/bin"

/-- The program that a command's name stands for: by its name alone, or by its path. -/
def program? (p : Process) (name : String) : Option String :=
  if name.toList.contains '/' then
    ["/bin/", "/usr/bin/"].findSome? fun d =>
      if name.startsWith d then some (String.ofList (name.toList.drop d.length)) else none
  else if findsPrograms p then some name
  else none

/-- Starts a program with the variables that it is to see. -/
def startTool (tool : Job → Outcome) (args : List String) : Work Unit := do
  let p ← get
  let o := tool ⟨args, p.input 0, p.files, p.place, p.environment⟩
  modify fun p => { p with files := o.files }
  modify fun p => ((p.write 1 o.output).write 2 o.errors)
  setStatus o.status

/-- Starts a shell of its own: only what commands see goes into it. -/
def startShell (run : Run) (args : List String) : Work Unit := fun p =>
  let inner := { p with
    values := p.values.filter Variable.isExported
    functions := []
    saved := []
    loops := 0
    atExit := none
    status := 0
    endsOnFailure := false
    demandsValues := false
    findsNames := true }
  let ended := fun (r : Except Jump Nat) (q : Process) =>
    match r with
    | .ok status => (.ok (), { q with status })
    | .error (.killed signal) =>
      let isSilent := signal = 2 ∨ signal = 13
      let q := if isSilent then q else q.write 2 (Status.signalPhrase signal ++ "\n")
      (.ok (), { q with status := 128 + signal })
    | .error j => (.error j, q)
  match args with
  | "-c" :: command :: rest =>
    let inner := { inner with name := rest.headD "sh", arguments := rest.drop 1 }
    let (r, q) := Work.apart (atExit run (wholeText run "" command)) inner
    ended r { p with files := q.files, channels := q.channels }
  | path :: rest =>
    match p.itemAt? path with
    | some (.file bytes) =>
      let inner := { inner with name := path, arguments := rest }
      let (r, q) := Work.apart (atExit run (wholeText run "" (Octets.ofBytes bytes))) inner
      ended r { p with files := q.files, channels := q.channels }
    | _ =>
      let q := p.write 2 ("sh: 0: cannot open " ++ path ++ ": No such file\n")
      (.ok (), { q with status := 2 })
  | [] =>
    let (r, q) := Work.apart (wholeText run "" (p.input 0)) inner
    ended r { p with files := q.files, channels := q.channels }

/-- What is done when no program has a name. -/
def notFound (label name : String) : Work Unit := do
  let p ← get
  if name.toList.contains '/' && (p.itemAt? name).isSome then
    Work.complain (label ++ name ++ ": Permission denied")
    setStatus 126
  else
    let reason := if name.isEmpty then ": Permission denied" else ": not found"
    Work.complain (label ++ name ++ reason)
    setStatus 127

/-- Does work while variables have other values and are seen by commands. -/
def withVariables (vs : List (String × String)) (w : Work Unit) : Work Unit := do
  let p ← get
  let before := vs.map fun (name, _) => (name, p.lookup? name)
  for (name, value) in vs do
    Work.assign name value
    modify fun p =>
      match p.lookup? name with
      | some v =>
        { p with values := Process.putVariable { v with isExported := true } p.values }
      | none => p
  fun p =>
    let (r, q) := w p
    (r, before.foldl (fun q (name, v) => q.restore name v) q)

/-- Starts the program with a name. -/
def start (run : Run) (label name : String) (args : List String) : Work Unit := do
  let p ← get
  match program? p name with
  | some "sh" | some "dash" => startShell run args
  | some tool =>
    match Tool.all.lookup tool with
    | some t => startTool t args
    | none =>
      match Builtin.ordinary.lookup tool with
      | some b =>
        if ["true", "false", "echo", "printf", "test", "["].contains tool then b args
        else notFound label name
      | none => notFound label name
  | none => notFound label name

/-- Starts a program in an environment that is changed. -/
def startWithEnvironment (run : Run) (args : List String) : Work Unit := do
  let (isBare, args) := match args with
    | "-i" :: rest => (true, rest)
    | "-" :: rest => (true, rest)
    | rest => (false, rest)
  let isAssignment := fun s : String => (Builtin.splitAssignment s).2.isSome
  let assigned := (args.takeWhile isAssignment).map fun s =>
    let (name, value) := Builtin.splitAssignment s
    (name, value.getD "")
  let rest := args.dropWhile isAssignment
  let inner := withVariables assigned do
    match rest with
    | [] => startTool Tool.printenv []
    | name :: args =>
      if ((Tool.all.lookup name).isSome || name = "sh" || name = "echo" || name = "printf" ||
          name = "true" || name = "false") then start run "" name args
      else
        modify fun p => p.write 2 ("env: '" ++ name ++ "': No such file or directory\n")
        setStatus 127
  if isBare then
    fun p =>
      let (r, q) := inner { p with values := p.values.filter fun v => !v.isExported }
      (r, { q with values := p.values })
  else inner

/-- What `command -v` says of a name. -/
def describe (p : Process) (name : String) : Option String :=
  if Reading.keywords.contains name || Builtin.isSpecial name ||
      (p.functions.lookup name).isSome || (Builtin.ordinary.lookup name).isSome ||
      Builtin.running.contains name then some name
  else if (Tool.all.lookup name).isSome && findsPrograms p then some ("/usr/bin/" ++ name)
  else none

/-- What a name stands for, as `type` says it. -/
def typeOf (p : Process) (name : String) : Option String :=
  if Reading.keywords.contains name then some " is a shell keyword"
  else if Builtin.isSpecial name then some " is a special shell builtin"
  else if (p.functions.lookup name).isSome then some " is a shell function"
  else (describe p name).map fun s =>
    if s = name then " is a shell builtin" else " is " ++ s

/-- Runs a command by its name. -/
def named (run : Run) (withFunctions : Bool) (name : String) (args : List String) : Work Unit := do
  let p ← get
  match Builtin.special.lookup name, if withFunctions then p.functions.lookup name else none with
  | some b, _ => b args
  | none, some body => call run body args
  | none, none =>
    match Builtin.ordinary.lookup name with
    | some b => b args
    | none => if name = "env" then startWithEnvironment run args else start run "" name args

/-- Runs the commands of a file in this shell. -/
def sourceFile (run : Run) (args : List String) : Work Unit := do
  let p ← get
  match args with
  | [] => setStatus 0
  | path :: _ =>
    let bytes := match p.itemAt? path with
      | some (.file bytes) => if path.toList.contains '/' then some bytes else none
      | _ => none
    match bytes with
    | some bytes => wholeText run "" (Octets.ofBytes bytes)
    | none => Work.fail (".: " ++ path ++ ": not found")

/-- Runs a command whose words are expanded. -/
def words (run : Run) (name : String) (args : List String) : Work Unit := do
  match name, args with
  | "eval", args =>
    if args.isEmpty then setStatus 0
    wholeText run "eval: " (" ".intercalate args)
  | ".", args => sourceFile run args
  | "exec", [] => setStatus 0
  | "exec", name :: args =>
    if name = "env" then startWithEnvironment run args else start run "exec: " name args
    throw (.ended (← get).status)
  | "command", "-v" :: names =>
    match names with
    | name :: _ =>
      match describe (← get) name with
      | some s =>
        Work.print (s ++ "\n")
        setStatus 0
      | none => setStatus 127
    | [] => setStatus 2
  | "type", names => Builtin.type (typeOf (← get)) names
  | "command", name :: args => named run false name args
  | "command", [] => setStatus 0
  | name, args => named run true name args

/-- Expands the values of assignments. -/
def assigned (expand : Expand) : List (String × Word) → Work (List (String × String))
  | [] => return []
  | (name, w) :: rest => do
    let s ← wordText expand w
    return (name, s) :: (← assigned expand rest)

/-- Sets variables one after the other, each before the next value is expanded. -/
def assignAll (expand : Expand) : List (String × Word) → Work Unit
  | [] => return ()
  | (name, w) :: rest => do
    Work.assign name (← wordText expand w)
    assignAll expand rest

/-- Runs a simple command. -/
def simple (run : Run) (expand : Expand) (line : Nat) (assignments : List (String × Word))
    (ws : List Word) (rs : List Redirection) : Work Unit := do
  modify fun p => { p with line, printed := none }
  match ← wordTexts expand ws with
  | [] =>
    redirected expand line rs false (return ())
    if (← get).status ≠ 2 ∨ rs.isEmpty then
      assignAll expand assignments
      setStatus ((← get).printed.getD 0)
  | ["exec"] => do
    match ← redirectAll expand rs with
    | some s => Work.fail s
    | none =>
      assignAll expand assignments
      setStatus 0
  | name :: args =>
    let isSpecial := Builtin.isSpecial name
    redirected expand line rs isSpecial do
      if isSpecial then
        assignAll expand assignments
        words run name args
      else
        let vs ← assigned expand assignments
        withVariables vs (words run name args)

/-- Runs the commands of a pipeline, each reading what the one before has printed. -/
def piped (run : Run) (input : Option String) : List Command → Work Unit
  | [] => return ()
  | [c] => do
    let status ← match input with
      | none => Work.apart (run true c)
      | some s => Work.apart do
          modify fun p => p.openChannel 0 (.given s)
          run true c
    setStatus status
  | c :: rest => do
    let (s, _) ← Work.captured input (run true c)
    piped run (some s) rest

/-- Does one round of a loop; whether it goes on. -/
def round (w : Work Bool) : Work Bool := fun p =>
  match w p with
  | (.error (.left n), q) => if n ≤ 1 then (.ok false, q) else (.error (.left (n - 1)), q)
  | (.error (.resumed n), q) => if n ≤ 1 then (.ok true, q) else (.error (.resumed (n - 1)), q)
  | (r, q) => (r, q)

/-- Does the rounds of a loop with a test; `last` is the status of its body so far. -/
def rounds (run : Run) (whileTrue : Bool) (test body : Command) : Nat → Nat → Work Unit
  | 0, _ => throw (.ended 2)
  | fuel + 1, last => do
    let goesOn ← round do
      run true test
      if ((← get).status = 0) = whileTrue then
        run false body
        return true
      else
        setStatus last
        return false
    if goesOn then rounds run whileTrue test body fuel (← get).status

/-- Does the rounds of a loop over texts. -/
def each (run : Run) (name : String) (body : Command) : List String → Work Unit
  | [] => return ()
  | s :: rest => do
    Work.assign name s
    let goesOn ← round do
      run false body
      return true
    if goesOn then each run name body rest

/-- Does work inside a loop. -/
def inLoop (w : Work Unit) : Work Unit := fun p =>
  let (r, q) := w { p with loops := p.loops + 1 }
  (r, { q with loops := p.loops })

/-- Whether one of some patterns suits a text. -/
def anySuits (expand : Expand) (s : String) : List Word → Work Bool
  | [] => return false
  | w :: rest => do
    let gs ← expand false w
    if Pattern.suits (Pattern.ofSigns (Glyph.signs gs)) s.toList then return true
    else anySuits expand s rest

/-- Runs the first clause that suits a text. -/
def clause (run : Run) (expand : Expand) (tested : Bool) (s : String) :
    List (List Word × Command) → Work Unit
  | [] => setStatus 0
  | (patterns, c) :: rest => do
    if ← anySuits expand s patterns then
      setStatus 0
      run tested c
    else clause run expand tested s rest

/-- Runs a command, given how to run the commands in it. -/
def commandWith (run : Run) (expand : Expand) (fuel : Nat) (tested : Bool) : Command → Work Unit
  | .empty => setStatus 0
  | .simple line assignments ws rs => do
    simple (fun t c => run (t || tested) c) expand line assignments ws rs
    endOnFailure tested
  | .redirected line c rs => redirected expand line rs false (run tested c)
  | .pipeline cs => do
    piped run none cs
    endOnFailure tested
  | .negated c => do
    run true c
    setStatus (if (← get).status = 0 then 1 else 0)
  | .both c d => do
    run true c
    if (← get).status = 0 then run tested d
  | .either c d => do
    run true c
    if (← get).status ≠ 0 then run tested d
  | .sequence c d => do
    run tested c
    run tested d
  | .background c => do
    let _ ← Work.apart do
      modify fun p => p.openChannel 0 .nothing
      run tested c
    setStatus 0
  | .subshell c => do
    let inside := atExit run do
      modify fun p => { p with atExit := none }
      run tested c
    setStatus (← Work.apart inside)
    endOnFailure tested
  | .choice test yes no => do
    run true test
    if (← get).status = 0 then run tested yes
    else
      setStatus 0
      run tested no
  | .loop whileTrue test body => inLoop (rounds run whileTrue test body fuel 0)
  | .each name ws body => do
    let texts ← match ws with
      | some ws => wordTexts expand ws
      | none => pure (← get).arguments
    setStatus 0
    inLoop (each run name body texts)
  | .cases w clauses => do
    clause run expand tested (← wordText expand w) clauses
  | .define name body => do
    modify fun p => { p with
      functions := (name, body) :: p.functions.filter fun f => f.1 ≠ name
      status := 0 }

end Run

mutual
/-- Runs a command, at most so many steps deep. -/
def run : Nat → Run
  | 0, _, _ => throw (.ended 2)
  | fuel + 1, tested, c => Run.commandWith (run fuel) (expand fuel) fuel tested c

/-- Expands parts of a word, at most so many steps deep. -/
def expand : Nat → Expand
  | 0, _, _ => throw (.ended 2)
  | fuel + 1, inQuotes, w => expandWith (run fuel false) (expand fuel) inQuotes w
end

end Bindery.Shell
