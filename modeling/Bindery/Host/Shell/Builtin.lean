import Bindery.Host.Shell.Condition
import Bindery.Host.Shell.Expansion
import Bindery.Host.Shell.Printing
import Bindery.Host.Status

/-!
# Bindery — Host — Shell — Builtin

What a shell does by itself.  A builtin command is given its arguments and leaves its status in
the shell; a special one (`isSpecial`) ends the shell when it is used wrongly.
-/

namespace Bindery.Shell

open Bindery.Text

namespace Builtin

/-- Ends a command with a status. -/
def ends (status : Nat) : Work Unit := modify fun p => { p with status }

/-- Complains and ends a command with a status. -/
def complains (s : String) (status : Nat) : Work Unit := do
  Work.complain s
  ends status

/-- A whole number without a sign. -/
def natural? (s : String) : Option Nat := natOfDigits? 10 s.toList

/-- The number that the first argument is, or another one when there is none. -/
def numberOr (name : String) (otherwise : Nat) (args : List String) : Work Nat := do
  match args with
  | [] => return otherwise
  | s :: _ =>
    match natural? s with
    | some n => return n
    | none => Work.fail (name ++ ": Illegal number: " ++ s)

/-- Whether a text can name a variable. -/
def isName (s : String) : Bool :=
  (s.toList.head?.any Sum.startsName) && s.toList.all Sum.isNameChar

/-- The two sides of the first equals sign; no second side without one. -/
def splitAssignment (s : String) : String × Option String :=
  let name := s.toList.takeWhile (· ≠ '=')
  match s.toList.drop name.length with
  | _ :: value => (String.ofList name, some (String.ofList value))
  | [] => (s, none)

/-- Ends the shell where a text does not name a variable. -/
def demandName (command s : String) : Work Unit := do
  if !isName s then Work.fail (command ++ ": " ++ s ++ ": bad variable name")

/-- Prints texts. -/
def echo (args : List String) : Work Unit := do
  Work.print (Printing.echo args)
  ends 0

/-- Prints by a format. -/
def printf (args : List String) : Work Unit := do
  let printed := Printing.printf args
  Work.print (String.ofList printed.chars)
  for s in printed.complaints do
    Work.complain ("printf: " ++ s)
  ends printed.status

/-- Ends the shell. -/
def exit (args : List String) : Work Unit := do
  let n ← numberOr "exit" (← get).status args
  throw (.ended (n % 256))

/-- Ends a function. -/
def leaveFunction (args : List String) : Work Unit := do
  let n ← numberOr "return" (← get).status args
  throw (.returned n)

/-- Leaves loops, or goes on with the next round of one. -/
def leave (name : String) (jump : Nat → Jump) (args : List String) : Work Unit := do
  let n ← numberOr name 1 args
  if n = 0 then Work.fail (name ++ ": Illegal number: " ++ args.headD "")
  let loops := (← get).loops
  ends 0
  if loops ≠ 0 then throw (jump (min n loops))

/-- Shows variables to commands, or fixes them. -/
def mark (command : String) (change : Variable → Variable) (args : List String) : Work Unit := do
  for arg in args do
    let (name, value) := splitAssignment arg
    demandName command name
    match value with
    | some s => Work.assign name s
    | none => if ((← get).lookup? name).isNone then modify fun p => p.assign name ""
    modify fun p =>
      match p.lookup? name with
      | some v => { p with values := Process.putVariable (change v) p.values }
      | none => p
  ends 0

/-- Removes variables, or functions. -/
def unset (args : List String) : Work Unit := do
  let (functions, names) := match args with
    | "-f" :: rest => (true, rest)
    | "-v" :: rest => (false, rest)
    | rest => (false, rest)
  for name in names do
    demandName "unset" name
    if functions then
      modify fun p => { p with functions := p.functions.filter fun f => f.1 ≠ name }
    else if ((← get).lookup? name).any Variable.isFixed then
      Work.fail ("unset: " ++ name ++ ": is read only")
    else modify fun p => p.restore name none
  ends 0

/-- Turns an option of the shell on or off. -/
def setOption (p : Process) (on : Bool) : Char → Process
  | 'e' => { p with endsOnFailure := on }
  | 'u' => { p with demandsValues := on }
  | 'f' => { p with findsNames := !on }
  | _ => p

/-- Sets options and arguments. -/
def configure : List String → Work Unit
  | [] => ends 0
  | "--" :: rest => do
    modify fun p => { p with arguments := rest }
    ends 0
  | arg :: rest => do
    match arg.toList with
    | '-' :: letters =>
      match letters.find? fun c => !"aCefhmnuvxb".toList.contains c with
      | some c => Work.fail ("set: Illegal option -" ++ String.singleton c)
      | none =>
        modify fun p => letters.foldl (fun p c => setOption p true c) p
        configure rest
    | '+' :: letters =>
      modify fun p => letters.foldl (fun p c => setOption p false c) p
      configure rest
    | _ =>
      modify fun p => { p with arguments := arg :: rest }
      ends 0

/-- Drops the first arguments. -/
def shift (args : List String) : Work Unit := do
  let n ← numberOr "shift" 1 args
  if (← get).arguments.length < n then Work.fail "shift: can't shift that many"
  modify fun p => { p with arguments := p.arguments.drop n }
  ends 0

/-- Goes to another directory. -/
def cd (args : List String) : Work Unit := do
  let p ← get
  let path := match args with
    | [] => p.valueOf "HOME"
    | "--" :: s :: _ => s
    | s :: _ => s
  if path.isEmpty then ends 0
  else
    match p.walk path with
    | .ok place =>
      match p.files.itemAt? place with
      | some .directory => modify fun p => { p with place, status := 0 }
      | _ => complains ("cd: can't cd to " ++ path) 2
    | .error _ => complains ("cd: can't cd to " ++ path) 2

/-- Decides a condition. -/
def test (name : String) (args : List String) : Work Unit := do
  let p ← get
  match Condition.holds p.itemAt? args with
  | .ok b => ends (if b then 0 else 1)
  | .error fault => complains (name ++ ": " ++ fault.message) 2

/-- Decides a condition between brackets. -/
def bracket (args : List String) : Work Unit :=
  match args.getLast? with
  | some "]" => test "[" args.dropLast
  | _ => complains "[: missing ]" 2

/-- What is said of a signal that is sent in a wrong way. -/
def killUsage : String :=
  "kill: Usage: kill [-s sigspec | -signum | -sigspec] [pid | job]... or\nkill -l [exitstatus]"

/-- The number of a signal that a text names. -/
def signal? (s : String) : Option Nat :=
  match natural? s with
  | some n => if n < 65 then some n else none
  | none => if s = "EXIT" then some 0 else Status.signalNumber? (s.map Char.toUpper)

/-- Sends a signal to processes, of which there is none but the shell itself. -/
def send (signal : Nat) : List String → Work Unit
  | [] => return ()
  | s :: rest => do
    match natural? s with
    | some n =>
      if n = ownNumber ∨ n = 0 then
        if Status.harmless.contains signal then
          ends 0
          send signal rest
        else throw (.killed signal)
      else
        complains "kill: No such process\n" 1
        send signal rest
    | none => complains ("kill: Illegal number: " ++ s) 2

/-- Sends a signal that is named, or the one to end. -/
def kill (args : List String) : Work Unit := do
  match args with
  | "-l" :: s :: _ =>
    match (natural? s).bind fun n => Status.signalName? (if n > 128 then n - 128 else n) with
    | some name =>
      Work.print (name ++ "\n")
      ends 0
    | none => complains ("kill: invalid signal number or exit status: " ++ s) 2
  | "-s" :: name :: rest =>
    match signal? name with
    | some n => if rest.isEmpty then complains killUsage 2 else send n rest
    | none => complains ("kill: invalid signal number or name: " ++ name) 2
  | "--" :: rest => if rest.isEmpty then complains killUsage 2 else send 15 rest
  | arg :: rest =>
    match arg.toList with
    | '-' :: c :: cs =>
      match signal? (String.ofList (c :: cs)) with
      | some n => if rest.isEmpty then complains killUsage 2 else send n rest
      | none => complains ("kill: Illegal option -" ++ String.singleton c) 2
    | _ => send 15 args
  | [] => complains killUsage 2

/-- The characters of the first line that is read, whether a break ended it, and how many
characters it took.  A backslash makes a character stand for itself, and drops a line break. -/
def takeLine (raw : Bool) : Nat → List Char → List Sign × Bool × Nat
  | 0, _ => ([], false, 0)
  | _, [] => ([], false, 0)
  | fuel + 1, c :: cs =>
    if c = '\n' then ([], true, 1)
    else if c = '\\' ∧ !raw then
      match cs with
      | [] => ([], false, 1)
      | d :: rest =>
        let (line, ended, n) := takeLine raw fuel rest
        if d = '\n' then (line, ended, n + 2) else (⟨d, true⟩ :: line, ended, n + 2)
    else
      let (line, ended, n) := takeLine raw fuel cs
      (⟨c, false⟩ :: line, ended, n + 1)

/-- The words of a line, of which the last one is all that is left. -/
def lineWords (separators : List Char) : Nat → List Sign → List String
  | 0, _ => []
  | count + 1, line =>
    let isSeparator := fun s : Sign => !s.isLiteral && separators.contains s.char
    let isGap := fun s : Sign => isSeparator s && (s.char = ' ' || s.char = '\t')
    let line := line.dropWhile isGap
    if count = 0 then [fieldText (line.reverse.dropWhile isGap).reverse]
    else
      let word := line.takeWhile fun s => !isSeparator s
      let rest := (line.drop word.length).dropWhile isGap
      let rest := match rest with
        | s :: more => if isSeparator s then more else rest
        | [] => []
      fieldText word :: lineWords separators count rest

/-- Reads a line into variables. -/
def read (args : List String) : Work Unit := do
  let (raw, names) := match args with
    | "-r" :: rest => (true, rest)
    | rest => (false, rest)
  match names.find? fun s => !isName s with
  | some s => return ← complains ("read: " ++ s ++ ": bad variable name") 2
  | none => pure ()
  let p ← get
  let input := (p.input 0).toList
  let (line, ended, count) := takeLine raw (input.length + 1) input
  modify fun p => p.consume 0 count
  let words := lineWords (separators p) names.length line
  for (name, word) in names.zip (words ++ List.replicate names.length "") do
    Work.assign name word
  if names.isEmpty then complains "read: arg count" 2
  else ends (if ended then 0 else 1)

/-- Makes variables a function's own. -/
def own (args : List String) : Work Unit := do
  if (← get).saved.isEmpty then Work.fail "local: not in a function"
  for arg in args do
    let (name, value) := splitAssignment arg
    demandName "local" name
    modify fun p =>
      match p.saved with
      | mine :: rest =>
        if mine.any fun v => v.1 = name then p
        else { p with saved := ((name, p.lookup? name) :: mine) :: rest }
      | [] => p
    match value with
    | some s => Work.assign name s
    | none => pure ()
  ends 0

/-- Says what names stand for, given how they are described. -/
def type (describe : String → Option String) (args : List String) : Work Unit := do
  ends 0
  for name in args do
    match describe name with
    | some s => Work.print (name ++ s ++ "\n")
    | none =>
      Work.print (name ++ ": not found\n")
      ends 127

/-- Sets what is done when the shell ends. -/
def trap (args : List String) : Work Unit := do
  match args with
  | action :: names =>
    if names.any fun s => s = "EXIT" || s = "0" then
      modify fun p => { p with atExit := if action = "-" then none else some action }
  | [] => pure ()
  ends 0

/-- The special builtins that need no command to be run. -/
def special : List (String × (List String → Work Unit)) :=
  [(":", fun _ => ends 0), ("break", leave "break" .left), ("continue", leave "continue" .resumed),
    ("exit", exit), ("export", mark "export" fun v => { v with isExported := true }),
    ("readonly", mark "readonly" fun v => { v with isFixed := true }), ("return", leaveFunction),
    ("set", configure), ("shift", shift), ("trap", trap), ("unset", unset)]

/-- The other builtins that need no command to be run. -/
def ordinary : List (String × (List String → Work Unit)) :=
  [("true", fun _ => ends 0), ("false", fun _ => ends 1), ("echo", echo), ("printf", printf),
    ("cd", cd), ("test", test "test"), ("[", bracket), ("kill", kill), ("read", read),
    ("local", own), ("wait", fun _ => ends 0), ("hash", fun _ => ends 0),
    ("umask", fun _ => ends 0)]

/-- The builtins that run commands. -/
def running : List String := ["eval", "exec", ".", "command", "type"]

/-- Whether a builtin ends the shell when it is used wrongly. -/
def isSpecial (name : String) : Bool :=
  ["eval", "exec", "."].contains name || (special.lookup name).isSome

end Builtin

end Bindery.Shell
