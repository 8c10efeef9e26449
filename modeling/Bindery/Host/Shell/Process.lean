import Bindery.Act
import Bindery.Host.Basic
import Bindery.Host.Shell.Command
import Bindery.Text.Numeral
import Bindery.Text.Octets

/-!
# Bindery — Host — Shell — Process

A shell at work: the files it sees, its variables and functions, and where its descriptors lead.
Descriptors 0, 1 and 2 are what it reads, what it prints and what it complains into.  What is
written to a channel is kept there, so that a command's prints can be looked at when it has ended.
-/

namespace Bindery.Shell

open Bindery.Text

/-- Where bytes come from or go to: into what is kept, out of what is given, or a file from some
byte on. -/
inductive Channel where
  | kept (written : String)
  | given (left : String)
  | file (path : List String) (offset : Nat)
  | nothing

/-- A variable. -/
structure Variable where
  name : String
  value : String
  isExported : Bool
  isFixed : Bool

/-- A shell at work.  `printed` is the status of the last command whose prints a word was given,
`loops` counts the loops that run, and `saved` holds, for each function that runs, the variables
that it has made its own, as they were before. -/
structure Process where
  files : Files
  place : Place
  values : List Variable
  functions : List (String × Command)
  name : String
  arguments : List String
  status : Nat
  printed : Option Nat
  line : Nat
  loops : Nat
  atExit : Option String
  descriptors : List (Nat × Nat)
  channels : List Channel
  saved : List (List (String × Option Variable))
  endsOnFailure : Bool
  demandsValues : Bool
  findsNames : Bool

/-- How a command is left before it has ended: the shell ends, or a function or a loop does. -/
inductive Jump where
  | ended (status : Nat)
  | killed (signal : Nat)
  | returned (status : Nat)
  | left (loops : Nat)
  | resumed (loops : Nat)

/-- Work of a shell. -/
abbrev Work (α : Type) : Type := Act Process Jump α

namespace Process

/-- The variable with a name. -/
def lookup? (p : Process) (name : String) : Option Variable :=
  p.values.find? fun v => v.name = name

/-- The value of a variable; none is empty. -/
def valueOf (p : Process) (name : String) : String :=
  ((p.lookup? name).map Variable.value).getD ""

/-- Variables with one put in its place, or at the end. -/
def putVariable (v : Variable) : List Variable → List Variable
  | [] => [v]
  | w :: rest => if w.name = v.name then v :: rest else w :: putVariable v rest

/-- A shell with a variable set. -/
def assign (p : Process) (name value : String) : Process :=
  let v := match p.lookup? name with
    | some v => { v with value }
    | none => ⟨name, value, false, false⟩
  { p with values := putVariable v p.values }

/-- A shell with a variable as it was before. -/
def restore (p : Process) (name : String) : Option Variable → Process
  | some v => { p with values := putVariable v p.values }
  | none => { p with values := p.values.filter fun v => v.name ≠ name }

/-- The variables that commands see. -/
def environment (p : Process) : List (String × String) :=
  (p.values.filter Variable.isExported).map fun v => (v.name, v.value)

/-- The channel that a descriptor leads to. -/
def channel? (p : Process) (descriptor : Nat) : Option Channel :=
  (p.descriptors.lookup descriptor).bind fun i => p.channels[i]?

/-- A shell with the channel that a descriptor leads to changed. -/
def setChannel (p : Process) (descriptor : Nat) (c : Channel) : Process :=
  match p.descriptors.lookup descriptor with
  | some i => { p with channels := p.channels.set i c }
  | none => p

/-- A shell with a descriptor leading to a channel of its own. -/
def openChannel (p : Process) (descriptor : Nat) (c : Channel) : Process :=
  { p with
    descriptors := (descriptor, p.channels.length) ::
      p.descriptors.filter fun d => d.1 ≠ descriptor
    channels := p.channels ++ [c] }

/-- The byte string that a file holds. -/
def contentOf (p : Process) (path : List String) : String :=
  match p.files.item? path with
  | some (.file bytes) => Octets.ofBytes bytes
  | _ => ""

/-- A text with another one written over it from some place on. -/
def overwrite (s : String) (offset : Nat) (t : String) : String :=
  let cs := s.toList
  let gap := List.replicate (offset - cs.length) '\x00'
  String.ofList (cs.take offset ++ gap ++ t.toList ++ cs.drop (offset + t.length))

/-- A shell that has written to a descriptor. -/
def write (p : Process) (descriptor : Nat) (s : String) : Process :=
  match p.channel? descriptor with
  | some (.kept written) => p.setChannel descriptor (.kept (written ++ s))
  | some (.file path offset) =>
    let content := Octets.toBytes (overwrite (p.contentOf path) offset s)
    let p := { p with files := p.files.put path (.file content) }
    p.setChannel descriptor (.file path (offset + s.length))
  | _ => p

/-- What is left to read from a descriptor. -/
def input (p : Process) (descriptor : Nat) : String :=
  match p.channel? descriptor with
  | some (.given left) => left
  | some (.file path offset) => String.ofList ((p.contentOf path).toList.drop offset)
  | _ => ""

/-- A shell that has read some bytes from a descriptor. -/
def consume (p : Process) (descriptor count : Nat) : Process :=
  match p.channel? descriptor with
  | some (.given left) => p.setChannel descriptor (.given (String.ofList (left.toList.drop count)))
  | some (.file path offset) => p.setChannel descriptor (.file path (offset + count))
  | _ => p

/-- What was written to a descriptor whose writings are kept. -/
def written (p : Process) (descriptor : Nat) : String :=
  match p.channel? descriptor with
  | some (.kept s) => s
  | _ => ""

/-- The place that a written path leads to. -/
def walk (p : Process) (path : String) : Except FileFault Place :=
  p.files.walkFrom p.place (Octets.toText path)

/-- What stands where a written path leads. -/
def itemAt? (p : Process) (path : String) : Option FileItem :=
  match p.walk path with
  | .ok place => p.files.itemAt? place
  | .error _ => none

/-- A complaint as a shell words it. -/
def complaint (p : Process) (s : String) : String :=
  p.name ++ ": " ++ Text.decimal p.line ++ ": " ++ s ++ "\n"

end Process

namespace Work

/-- Prints. -/
def print (s : String) : Work Unit := modify fun p => p.write 1 s

/-- Complains. -/
def complain (s : String) : Work Unit := modify fun p => p.write 2 (p.complaint s)

/-- Complains and ends the shell. -/
def fail {α : Type} (s : String) : Work α := do
  complain s
  throw (.ended 2)

/-- Does work in a shell of its own: only what it does to files and what it writes remains. -/
def apart (w : Work Unit) : Work Nat := fun p =>
  let (r, q) := w p
  let back := { p with files := q.files, channels := q.channels.take p.channels.length }
  match r with
  | .error (.killed signal) => (.error (.killed signal), back)
  | .error (.ended status) => (.ok (status % 256), back)
  | .error (.returned status) => (.ok (status % 256), back)
  | _ => (.ok (q.status % 256), back)

/-- Does work in a shell of its own that reads `input`, and gives what it prints. -/
def captured (input : Option String) (w : Work Unit) : Work (String × Nat) := fun p =>
  let index := p.channels.length
  let inner := p.openChannel 1 (.kept "")
  let inner := match input with
    | some s => inner.openChannel 0 (.given s)
    | none => inner
  let (r, q) := apart w inner
  let text := match q.channels[index]? with
    | some (.kept s) => s
    | _ => ""
  let back := { p with files := q.files, channels := q.channels.take p.channels.length }
  match r with
  | .ok status => (.ok (text, status), back)
  | .error j => (.error j, back)

/-- Sets a variable, which may not be fixed. -/
def assign (name value : String) : Work Unit := do
  if ((← get).lookup? name).any Variable.isFixed then fail (name ++ ": is read only")
  modify fun p => p.assign name value

end Work

end Bindery.Shell
