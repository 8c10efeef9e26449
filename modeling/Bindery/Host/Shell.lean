import Bindery.Host.Shell.Run

/-!
# Bindery — Host — Shell

Running a command line.  The shell sees the files and the environment variables of the host; what
it does to files remains, and what it does to variables does not.  Time does not pass for it.
-/

namespace Bindery

open Bindery.Text

/-- What a command leaves behind. -/
structure CommandResult where
  output : List UInt8
  errors : List UInt8
  status : Status

namespace Shell

/-- How deep commands may be within each other, and how many rounds a loop may take. -/
def depth : Nat := 100000

/-- Where programs are looked for. -/
def programPath : String := "/usr/local/bin:/usr/bin:/bin"

/-- The variables that a shell starts with: those of the host, and where programs are. -/
def startVariables (h : Host) : List Variable :=
  (Host.setVariable "PATH" ((h.environment.lookup "PATH").getD programPath) h.environment).map
    fun (name, value) => ⟨Octets.ofText name, Octets.ofText value, true, false⟩

/-- A shell that starts. -/
def start (h : Host) : Process where
  files := h.files
  place := .inside []
  values := startVariables h
  functions := []
  name := "sh"
  arguments := []
  status := 0
  printed := none
  line := 1
  loops := 0
  atExit := none
  descriptors := [(0, 0), (1, 1), (2, 2)]
  channels := [.given "", .kept "", .kept ""]
  saved := []
  endsOnFailure := false
  demandsValues := false
  findsNames := true

/-- How a shell ended. -/
def endOf (p : Process) : Except Jump Unit → Status
  | .error (.killed signal) => .signalled signal
  | .error (.ended status) => .exited (status % 256)
  | .error (.returned status) => .exited (status % 256)
  | _ => .exited (p.status % 256)

/-- What is kept in a channel. -/
def kept (p : Process) (i : Nat) : List UInt8 :=
  match p.channels[i]? with
  | some (.kept s) => Octets.toBytes s
  | _ => []

/-- Runs a command line. -/
def runLine (command : String) (h : Host) : CommandResult × Host :=
  let go := run depth
  let (r, p) := Run.atExit go (Run.wholeText go "" (Octets.ofText command)) (start h)
  (⟨kept p 1, kept p 2, endOf p r⟩, { h with files := p.files })

end Shell

end Bindery
