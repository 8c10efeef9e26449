/-!
# Bindery — Host — Shell — Command

What a shell can be told.  A word is a list of parts, some of which stand for something else; a
command is a simple one or is composed of others.  Texts here are byte strings.
-/

namespace Bindery.Shell

/-- How a parameter is used.  With `ifEmpty` an empty value counts as none; with `longest` as
much as possible is cut off.  An `unknown` use is found when the word is expanded. -/
inductive Use where
  | value
  | length
  | standIn (ifEmpty : Bool)
  | assign (ifEmpty : Bool)
  | demand (ifEmpty : Bool)
  | instead (ifEmpty : Bool)
  | cutFront (longest : Bool)
  | cutBack (longest : Bool)
  | unknown

/-- What a redirection does with a file or with another descriptor. -/
inductive Mode where
  | read
  | write
  | append
  | both
  | copy
  | text

mutual
/-- A part of a word: text as it stands, text that was quoted, what stands between double
quotes, the value of a parameter, what a command prints, or the value of a sum. -/
inductive Part where
  | plain (s : String)
  | literal (s : String)
  | quotes (parts : List Part)
  | parameter (name : String) (use : Use) (argument : List Part)
  | output (c : Command)
  | sum (parts : List Part)

/-- A change to where a descriptor reads from or writes to. -/
inductive Redirection where
  | mk (descriptor : Nat) (mode : Mode) (target : List Part)

/-- A command. -/
inductive Command where
  | empty
  | simple (line : Nat) (assignments : List (String × List Part)) (words : List (List Part))
      (redirections : List Redirection)
  | redirected (line : Nat) (c : Command) (redirections : List Redirection)
  | pipeline (cs : List Command)
  | negated (c : Command)
  | both (c d : Command)
  | either (c d : Command)
  | sequence (c d : Command)
  | background (c : Command)
  | subshell (c : Command)
  | choice (test yes no : Command)
  | loop (whileTrue : Bool) (test body : Command)
  | each (name : String) (words : Option (List (List Part))) (body : Command)
  | cases (word : List Part) (clauses : List (List (List Part) × Command))
  | define (name : String) (body : Command)
end

instance : Inhabited Part := ⟨.plain ""⟩
instance : Inhabited Command := ⟨.empty⟩

/-- A word. -/
abbrev Word := List Part

end Bindery.Shell
