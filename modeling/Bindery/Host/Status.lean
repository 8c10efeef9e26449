import Bindery.Text.Numeral

/-!
# Bindery — Host — Status

How a command ended: by itself with a code, or by a signal.
-/

namespace Bindery

/-- How a command ended. -/
inductive Status where
  | exited (code : Nat)
  | signalled (signal : Nat)
deriving DecidableEq, Repr, Inhabited

namespace Status

/-- The names of the signals from the first one on. -/
def signalNames : List String :=
  ["HUP", "INT", "QUIT", "ILL", "TRAP", "ABRT", "BUS", "FPE", "KILL", "USR1", "SEGV", "USR2",
    "PIPE", "ALRM", "TERM", "STKFLT", "CHLD", "CONT", "STOP", "TSTP", "TTIN", "TTOU", "URG",
    "XCPU", "XFSZ", "VTALRM", "PROF", "WINCH", "IO", "PWR", "SYS"]

/-- The name of a signal. -/
def signalName? (signal : Nat) : Option String :=
  if signal = 0 then none else signalNames[signal - 1]?

/-- The number of a signal that is given by its name. -/
def signalNumber? (name : String) : Option Nat :=
  (signalNames.findIdx? (· = name)).map (· + 1)

/-- What a shell says of a command that a signal has ended. -/
def signalPhrase : Nat → String
  | 1 => "Hangup"
  | 3 => "Quit"
  | 4 => "Illegal instruction"
  | 6 => "Aborted"
  | 7 => "Bus error"
  | 8 => "Floating point exception"
  | 9 => "Killed"
  | 10 => "User defined signal 1"
  | 11 => "Segmentation fault"
  | 12 => "User defined signal 2"
  | 14 => "Alarm clock"
  | 15 => "Terminated"
  | n => "Signal " ++ Text.decimal n

/-- The signals that a command does not end at. -/
def harmless : List Nat := [0, 17, 18, 23, 28]

/-- Whether a command succeeded. -/
def isSuccess : Status → Bool
  | exited code => code = 0
  | signalled _ => false

/-- A status as a message shows it. -/
def text : Status → String
  | exited code => s!"exit status: {Text.decimal code}"
  | signalled signal =>
    match signalName? signal with
    | some name => s!"signal: {Text.decimal signal} (SIG{name})"
    | none => s!"signal: {Text.decimal signal}"

end Status

end Bindery
