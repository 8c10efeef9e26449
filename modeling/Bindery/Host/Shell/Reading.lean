import Bindery.Act
import Bindery.Host.Shell.Command

/-!
# Bindery — Host — Shell — Reading

Reading commands.  A text is read one line at a time (`nextLine`), so that what stands before a
fault is still carried out; a command that is not complete goes on over further lines.
-/

namespace Bindery.Shell

/-- Why a text is no command. -/
inductive SyntaxFault where
  | unexpected (found : String) (expected : Option String)
  | openQuote
  | openBrace
  | openSum
  | openBackquote
  | badVariable

namespace SyntaxFault

/-- What is said of a text that is no command. -/
def message : SyntaxFault → String
  | unexpected found none => "Syntax error: " ++ found ++ " unexpected"
  | unexpected found (some expected) =>
    "Syntax error: " ++ found ++ " unexpected (expecting \"" ++ expected ++ "\")"
  | openQuote => "Syntax error: Unterminated quoted string"
  | openBrace => "Syntax error: Missing '\x7d'"
  | openSum => "Syntax error: Missing '))'"
  | openBackquote => "Syntax error: EOF in backquote substitution"
  | badVariable => "Syntax error: Bad for loop variable"

end SyntaxFault

/-- A text that is left, and the number of its line. -/
structure Source where
  chars : List Char
  line : Nat

/-- Reading from a text. -/
abbrev Reading (α : Type) : Type := Act Source SyntaxFault α

namespace Reading

/-- The next character. -/
def peek : Reading (Option Char) := do
  return (← get).chars.head?

/-- The next characters, as far as there are any. -/
def ahead (n : Nat) : Reading (List Char) := do
  return (← get).chars.take n

/-- Takes a number of characters. -/
def skip (n : Nat) : Reading Unit :=
  modify fun s =>
    { chars := s.chars.drop n, line := s.line + ((s.chars.take n).filter (· = '\n')).length }

/-- Takes some characters when they come next. -/
def take? (text : String) : Reading Bool := do
  let isThere := text.toList.isPrefixOf (← get).chars
  if isThere then skip text.length
  return isThere

/-- Takes the characters up to the first that is not as `p` says. -/
def takeWhile (p : Char → Bool) : Reading String := do
  let cs := (← get).chars.takeWhile p
  skip cs.length
  return String.ofList cs

/-- A character that ends a word. -/
def isMeta (c : Char) : Bool :=
  [' ', '\t', '\n', ';', '&', '|', '<', '>', '(', ')'].contains c

/-- A character that a name may start with. -/
def startsName (c : Char) : Bool := c.isAlpha || c = '_'

/-- A character of a name. -/
def isNameChar (c : Char) : Bool := c.isAlphanum || c = '_'

/-- A parameter whose name is one character. -/
def isSpecial (c : Char) : Bool :=
  ['@', '*', '#', '?', '-', '$', '!'].contains c || c.isDigit

/-- Skips blanks, escaped line breaks and a comment. -/
def skipBlanks : Nat → Reading Unit
  | 0 => return ()
  | fuel + 1 => do
    match ← ahead 2 with
    | ' ' :: _ => skip 1; skipBlanks fuel
    | '\t' :: _ => skip 1; skipBlanks fuel
    | ['\\', '\n'] => skip 2; skipBlanks fuel
    | '#' :: _ => let _ ← takeWhile (· ≠ '\n')
    | _ => return ()

/-- Skips what may stand between words. -/
def blanks : Reading Unit := do skipBlanks ((← get).chars.length + 1)

/-- Skips blanks and line breaks. -/
def skipLines : Nat → Reading Unit
  | 0 => return ()
  | fuel + 1 => do
    blanks
    if ← take? "\n" then skipLines fuel

/-- Skips what may stand between lines. -/
def lines : Reading Unit := do skipLines ((← get).chars.length + 1)

/-- Where a part of a word stands. -/
inductive Context where
  | bare
  | quotes
  | braces (inQuotes : Bool)
  | sum (depth : Nat)
  | text
deriving DecidableEq

namespace Context

/-- Whether quotes and backslashes are special only as between double quotes. -/
def isQuoted : Context → Bool
  | bare => false
  | quotes => true
  | braces inQuotes => inQuotes
  | sum _ => true
  | text => true

/-- Whether characters end what stands there. -/
def ends : Context → List Char → Bool
  | _, [] => true
  | bare, c :: _ => isMeta c
  | quotes, c :: _ => c = '"'
  | braces _, c :: _ => c = '\x7d'
  | sum depth, c :: rest => depth = 0 && c = ')' && rest.head? == some ')'
  | text, _ => false

/-- Whether a backslash makes a character stand for itself. -/
def escapes : Context → Char → Bool
  | bare, _ => true
  | braces false, _ => true
  | quotes, c => ['$', '\x60', '"', '\\'].contains c
  | braces true, c => ['$', '\x60', '"', '\\', '\x7d'].contains c
  | sum _, c => ['$', '\x60', '\\'].contains c
  | text, c => ['$', '\x60', '\\'].contains c

/-- Where the part after a character stands. -/
def after : Context → Char → Context
  | sum depth, c =>
    if c = '(' then sum (depth + 1) else if c = ')' then sum (depth - 1) else sum depth
  | ctx, _ => ctx

end Context

/-- Reads a text between backquotes: a backslash is dropped before one, before a dollar sign and
before another backslash. -/
def backquoted (inQuotes : Bool) : Nat → List Char → Reading (List Char)
  | 0, _ => throw .openBackquote
  | fuel + 1, cs => do
    match ← ahead 2 with
    | [] => throw .openBackquote
    | '\x60' :: _ => skip 1; return cs.reverse
    | ['\\', c] =>
      skip 2
      if c = '\n' then backquoted inQuotes fuel cs
      else if c = '\\' ∨ c = '\x60' ∨ c = '$' ∨ (inQuotes ∧ c = '"') then
        backquoted inQuotes fuel (c :: cs)
      else backquoted inQuotes fuel (c :: '\\' :: cs)
    | c :: _ => skip 1; backquoted inQuotes fuel (c :: cs)


/-- The words that a command is built with. -/
def keywords : List String :=
  ["!", "\x7b", "\x7d", "if", "then", "else", "elif", "fi", "while", "until", "for", "do", "done",
    "case", "esac", "in"]

/-- The keyword that comes next, if one does. -/
def keyword? : Reading (Option String) := do
  blanks
  let cs := (← get).chars
  let w := String.ofList (cs.takeWhile fun c => !isMeta c)
  return if keywords.contains w then some w else none

/-- Takes a keyword when it comes next. -/
def takeKeyword (w : String) : Reading Bool := do
  let isThere := (← keyword?) == some w
  if isThere then skip w.length
  return isThere

/-- What comes next, as a message names it. -/
def nextName : Reading String := do
  match ← keyword? with
  | some w => return "\"" ++ w ++ "\""
  | none =>
    match ← ahead 2 with
    | [] => return "end of file"
    | '\n' :: _ => return "newline"
    | '<' :: _ => return "redirection"
    | '>' :: _ => return "redirection"
    | [';', ';'] => return "\";;\""
    | ['&', '&'] => return "\"&&\""
    | ['|', '|'] => return "\"||\""
    | c :: _ => return if isMeta c then "\"" ++ String.singleton c ++ "\"" else "word"

/-- Fails because of what comes next. -/
def unexpected {α : Type} (expected : Option String) : Reading α := do
  throw (.unexpected (← nextName) expected)

/-- Takes a keyword, which has to come next. -/
def expectKeyword (w : String) : Reading Unit := do
  if !(← takeKeyword w) then unexpected (some w)

/-- Reads a command out of a text of its own, which has to be all of it. -/
def within (text : List Char) (read : Reading Command) : Reading Command := do
  let outside ← get
  set { outside with chars := text }
  let c ← read
  if (← peek).isSome then unexpected none
  set outside
  return c

/-- What a parameter is used for, after its name; `none` when the brace is closed at once. -/
def use : Reading (Option Use) := do
  if ← take? "\x7d" then return none
  let ifEmpty ← take? ":"
  let pattern := fun (u : Use) => if ifEmpty then Use.unknown else u
  match ← ahead 2 with
  | '-' :: _ => skip 1; return some (.standIn ifEmpty)
  | '=' :: _ => skip 1; return some (.assign ifEmpty)
  | '?' :: _ => skip 1; return some (.demand ifEmpty)
  | '+' :: _ => skip 1; return some (.instead ifEmpty)
  | ['#', '#'] => skip 2; return some (pattern (.cutFront true))
  | '#' :: _ => skip 1; return some (pattern (.cutFront false))
  | ['%', '%'] => skip 2; return some (pattern (.cutBack true))
  | '%' :: _ => skip 1; return some (pattern (.cutBack false))
  | _ => return some .unknown

/-- Whether a use takes a pattern, which is not quoted by the quotes around it. -/
def takesPattern : Use → Bool
  | .cutFront _ | .cutBack _ => true
  | _ => false

/-- Takes the name of a parameter in braces; it may be missing. -/
def parameterName : Reading String := do
  match ← peek with
  | some c =>
    if startsName c then takeWhile isNameChar
    else if c.isDigit then takeWhile Char.isDigit
    else if isSpecial c then skip 1; return String.singleton c
    else return ""
  | none => return ""

/-- Reads a parameter after a dollar sign and a brace. -/
def braced (parts : Context → Reading Word) (inQuotes : Bool) : Reading Part := do
  match ← ahead 3 with
  | '#' :: c :: rest =>
    if startsName c ∨ (isSpecial c ∧ rest = ['\x7d']) then
      skip 1
      let name ← parameterName
      if ← take? "\x7d" then return .parameter name .length []
      let argument ← parts (.braces inQuotes)
      if ← take? "\x7d" then return .parameter name .unknown argument else throw .openBrace
  | _ => pure ()
  let name ← parameterName
  match ← use with
  | none => return .parameter name (if name.isEmpty then .unknown else .value) []
  | some u =>
    let argument ← parts (.braces (inQuotes && !takesPattern u))
    if ← take? "\x7d" then return .parameter name u argument else throw .openBrace

/-- Reads what a dollar sign starts, given how to read commands and the parts of words. -/
def dollar (list : Reading Command) (parts : Context → Reading Word) (inQuotes : Bool) :
    Reading Part := do
  skip 1
  if ← take? "((" then
    let ps ← parts (.sum 0)
    if ← take? "))" then return .sum ps else throw .openSum
  else if ← take? "(" then
    let c ← list
    blanks
    if ← take? ")" then return .output c else unexpected (some ")")
  else if ← take? "\x7b" then braced parts inQuotes
  else
    match ← peek with
    | some c =>
      if startsName c then return .parameter (← takeWhile isNameChar) .value []
      else if isSpecial c then skip 1; return .parameter (String.singleton c) .value []
      else return .literal "$"
    | none => return .literal "$"

/-- Reads one part of a word, or nothing where a line break is escaped. -/
def part (list : Reading Command) (parts : Context → Reading Word) (ctx : Context) (c : Char) :
    Reading Word := do
  if c = '\\' then
    match ← ahead 2 with
    | [_, '\n'] => skip 2; return []
    | [_, d] =>
      if ctx.escapes d then skip 2; return [.literal (String.singleton d)]
      else skip 1; return [.literal "\\"]
    | _ => skip 1; return [.literal "\\"]
  else if c = '\'' ∧ !ctx.isQuoted then
    skip 1
    let s ← takeWhile (· ≠ '\'')
    if ← take? "'" then return [.literal s] else throw .openQuote
  else if c = '"' ∧ (!ctx.isQuoted ∨ ctx = .braces true) then
    skip 1
    let ps ← parts .quotes
    if ← take? "\"" then return [.quotes ps] else throw .openQuote
  else if c = '$' then return [← dollar list parts ctx.isQuoted]
  else if c = '\x60' then
    skip 1
    let text ← backquoted ctx.isQuoted ((← get).chars.length + 1) []
    return [.output (← within text list)]
  else skip 1; return [.plain (String.singleton c)]

/-- Reads the parts of a word, up to where what they stand in ends. -/
def wordParts (list : Reading Command) : Nat → Context → Reading Word
  | 0, _ => throw .openQuote
  | fuel + 1, ctx => do
    let cs ← ahead 2
    if ctx.ends cs then return []
    match cs with
    | [] => return []
    | c :: _ =>
      let ps ← part list (wordParts list fuel) ctx c
      return ps ++ (← wordParts list fuel (ctx.after c))

/-- Reads a word, if one comes next. -/
def word? (list : Reading Command) : Reading (Option Word) := do
  blanks
  match ← peek with
  | none => return none
  | some c =>
    if isMeta c then return none
    else return some (← wordParts list (2 * (← get).chars.length + 2) .bare)

/-- Takes the lines of a text up to one that is `delimiter`. -/
def takeDocument (delimiter : List Char) (dropTabs : Bool) :
    Nat → List Char → List Char → List Char × List Char
  | 0, body, cs => (body, cs)
  | fuel + 1, body, cs =>
    let line := cs.takeWhile (· ≠ '\n')
    let rest := (cs.dropWhile (· ≠ '\n')).drop 1
    let line := if dropTabs then line.dropWhile (· = '\t') else line
    if cs.isEmpty then (body, [])
    else if line = delimiter then (body, rest)
    else takeDocument delimiter dropTabs fuel (body ++ line ++ ['\n']) rest

/-- The characters of a word that is to be taken as it stands. -/
def plainChars : Word → List Char
  | [] => []
  | .plain s :: rest => s.toList ++ plainChars rest
  | .literal s :: rest => s.toList ++ plainChars rest
  | .quotes [.plain s] :: rest => s.toList ++ plainChars rest
  | _ :: rest => plainChars rest

/-- Reads a text that follows the line, given the word that ends it. -/
def document (list : Reading Command) (delimiter : Word) (dropTabs : Bool) : Reading Word := do
  let source ← get
  let line := source.chars.takeWhile (· ≠ '\n')
  let below := (source.chars.dropWhile (· ≠ '\n')).drop 1
  let isPlain := delimiter.all fun p => match p with
    | .plain _ => true
    | _ => false
  let flat := delimiter.flatMap fun p => match p with
    | .quotes ps => ps
    | p => [p]
  let (body, rest) := takeDocument (plainChars flat) dropTabs (below.length + 1) [] below
  if isPlain then
    set { source with chars := body }
    let ps ← wordParts list (2 * body.length + 2) .text
    set { source with chars := line ++ '\n' :: rest }
    return [.quotes ps]
  else
    set { source with chars := line ++ '\n' :: rest }
    return [.literal (String.ofList body)]

/-- Reads a redirection, if one comes next; a number before it is the descriptor. -/
def redirection? (list : Reading Command) : Reading (Option Redirection) := do
  blanks
  let cs := (← get).chars
  let digits := cs.takeWhile Char.isDigit
  match cs.dropWhile Char.isDigit with
  | c :: _ =>
    if (c = '<' ∨ c = '>') ∧ digits.length ≤ 1 then
      skip digits.length
      let descriptor := match digits with
        | d :: _ => d.toNat - '0'.toNat
        | [] => if c = '<' then 0 else 1
      let dropTabs ← take? "<<-"
      let mode : Mode ←
        if dropTabs then pure .text
        else if ← take? "<<" then pure .text
        else if ← take? "<&" then pure .copy
        else if ← take? "<>" then pure .both
        else if ← take? "<" then pure .read
        else if ← take? ">>" then pure .append
        else if ← take? ">&" then pure .copy
        else if ← take? ">|" then pure .write
        else do skip 1; pure .write
      match ← word? list with
      | none => unexpected none
      | some w =>
        match mode with
        | .text => return some ⟨descriptor, .text, ← document list w dropTabs⟩
        | mode => return some ⟨descriptor, mode, w⟩
    else return none
  | [] => return none

/-- Reads redirections. -/
def redirections (list : Reading Command) : Nat → Reading (List Redirection)
  | 0 => return []
  | fuel + 1 => do
    match ← redirection? list with
    | some r => return r :: (← redirections list fuel)
    | none => return []

/-- Takes the name and the equals sign of an assignment, if they come next. -/
def assigned? : Reading (Option String) := do
  let cs := (← get).chars
  let name := cs.takeWhile isNameChar
  if (name.head?.any startsName) && (cs.drop name.length).head? == some '=' then
    skip (name.length + 1)
    return some (String.ofList name)
  else return none

/-- A simple command as far as it has been read, the latest word first. -/
structure Pieces where
  assignments : List (String × Word)
  words : List Word
  redirections : List Redirection

/-- Reads the words of a simple command. -/
def pieces (list : Reading Command) : Nat → Pieces → Reading Pieces
  | 0, ps => return ps
  | fuel + 1, ps => do
    match ← redirection? list with
    | some r => pieces list fuel { ps with redirections := r :: ps.redirections }
    | none =>
      match ← (if ps.words.isEmpty then assigned? else pure none) with
      | some name =>
        let cs ← peek
        let value ← if cs.any isMeta then pure none else word? list
        pieces list fuel { ps with assignments := (name, value.getD []) :: ps.assignments }
      | none =>
        match ← word? list with
        | none => return ps
        | some w =>
          let ps := { ps with words := w :: ps.words }
          if ps.words.length = 1 ∧ (← peek) = some '(' then return ps
          else pieces list fuel ps

/-- Reads a simple command, or the definition of a function. -/
def simple (list command : Reading Command) : Reading Command := do
  let line := (← get).line
  let ps ← pieces list ((← get).chars.length + 1) ⟨[], [], []⟩
  blanks
  match ps.words, ← peek with
  | [w], some '(' =>
    skip 1
    blanks
    if !(← take? ")") then unexpected (some ")")
    lines
    return .define (String.ofList (plainChars w)) (← command)
  | words, _ =>
    if words.isEmpty && ps.assignments.isEmpty && ps.redirections.isEmpty then unexpected none
    else return .simple line ps.assignments.reverse words.reverse ps.redirections.reverse

/-- Whether a list of commands ends here. -/
def atEnd : Reading Bool := do
  match ← keyword? with
  | some w => return ["\x7d", "then", "else", "elif", "fi", "do", "done", "esac"].contains w
  | none =>
    match ← ahead 2 with
    | [] => return true
    | ')' :: _ => return true
    | [';', ';'] => return true
    | _ => return false

/-- Reads the rest of a list of commands, after the first of them. -/
def restOfList (andOr : Reading Command) : Nat → Command → Reading Command
  | 0, c => return c
  | fuel + 1, c => do
    blanks
    let goOn := fun (c : Command) => do
      lines
      if ← atEnd then return c
      let d ← andOr
      restOfList andOr fuel (.sequence c d)
    match ← ahead 2 with
    | ['&', '&'] => return c
    | [';', ';'] => return c
    | '&' :: _ => skip 1; goOn (.background c)
    | ';' :: _ => skip 1; goOn c
    | '\n' :: _ => goOn c
    | _ => return c

/-- Reads a list of commands, which may hold none. -/
def listOf (andOr : Reading Command) : Reading Command := do
  lines
  if ← atEnd then return .empty
  let c ← andOr
  restOfList andOr ((← get).chars.length + 1) c

/-- Reads a list of commands, of which there has to be one unless the text ends. -/
def bodyOf (list : Reading Command) : Reading Command := do
  lines
  if (← atEnd) && (← peek).isSome then unexpected none else list

/-- Reads what comes after the test of a choice. -/
def choiceAfter (list : Reading Command) : Nat → Reading Command
  | 0 => unexpected none
  | fuel + 1 => do
    let test ← bodyOf list
    expectKeyword "then"
    let yes ← bodyOf list
    if ← takeKeyword "elif" then return .choice test yes (← choiceAfter list fuel)
    else if ← takeKeyword "else" then
      let no ← bodyOf list
      expectKeyword "fi"
      return .choice test yes no
    else
      expectKeyword "fi"
      return .choice test yes .empty

/-- Reads words up to the end of a line. -/
def wordsOf (list : Reading Command) : Nat → Reading (List Word)
  | 0 => return []
  | fuel + 1 => do
    match ← word? list with
    | some w => return w :: (← wordsOf list fuel)
    | none => return []

/-- Reads a loop over words, after its keyword. -/
def eachOf (list : Reading Command) : Reading Command := do
  blanks
  let name ← takeWhile isNameChar
  if !(name.toList.head?.any startsName) then throw .badVariable
  lines
  let words ← if ← takeKeyword "in" then do
      let ws ← wordsOf list ((← get).chars.length + 1)
      blanks
      if !((← take? ";") || (← take? "\n")) then unexpected none
      pure (some ws)
    else do
      let _ ← take? ";"
      pure none
  lines
  expectKeyword "do"
  let body ← bodyOf list
  expectKeyword "done"
  return .each name words body

/-- Reads the patterns of a clause. -/
def patterns (list : Reading Command) : Nat → Reading (List Word)
  | 0 => return []
  | fuel + 1 => do
    match ← word? list with
    | none => unexpected none
    | some w =>
      blanks
      if ← take? "|" then return w :: (← patterns list fuel)
      else if ← take? ")" then return [w]
      else unexpected (some ")")

/-- Reads the clauses of a case. -/
def clauses (list : Reading Command) : Nat → Reading (List (List Word × Command))
  | 0 => return []
  | fuel + 1 => do
    lines
    if ← takeKeyword "esac" then return []
    let _ ← take? "("
    let ws ← patterns list ((← get).chars.length + 1)
    lines
    let body ← if ← atEnd then pure .empty else list
    lines
    if ← take? ";;" then return (ws, body) :: (← clauses list fuel)
    else
      expectKeyword "esac"
      return [(ws, body)]

/-- Reads a case, after its keyword. -/
def casesOf (list : Reading Command) : Reading Command := do
  match ← word? list with
  | none => unexpected none
  | some w =>
    lines
    expectKeyword "in"
    return .cases w (← clauses list ((← get).chars.length + 1))

/-- Reads a command that is composed of others, if one comes next. -/
def compound? (list : Reading Command) : Reading (Option Command) := do
  blanks
  if ← take? "(" then
    let c ← bodyOf list
    blanks
    if ← take? ")" then return some (.subshell c) else unexpected (some ")")
  else if ← takeKeyword "\x7b" then
    let c ← bodyOf list
    expectKeyword "\x7d"
    return some c
  else if ← takeKeyword "if" then
    return some (← choiceAfter list ((← get).chars.length + 1))
  else if ← takeKeyword "while" then
    let test ← bodyOf list
    expectKeyword "do"
    let body ← bodyOf list
    expectKeyword "done"
    return some (.loop true test body)
  else if ← takeKeyword "until" then
    let test ← bodyOf list
    expectKeyword "do"
    let body ← bodyOf list
    expectKeyword "done"
    return some (.loop false test body)
  else if ← takeKeyword "for" then return some (← eachOf list)
  else if ← takeKeyword "case" then return some (← casesOf list)
  else return none

/-- Reads a command. -/
def command (list : Reading Command) : Nat → Reading Command
  | 0 => unexpected none
  | fuel + 1 => do
    blanks
    let line := (← get).line
    match ← compound? list with
    | some c =>
      let rs ← redirections list ((← get).chars.length + 1)
      return if rs.isEmpty then c else .redirected line c rs
    | none =>
      if (← keyword?).isSome then unexpected none else simple list (command list fuel)

/-- Reads the commands of a pipeline. -/
def piped (command : Reading Command) : Nat → Reading (List Command)
  | 0 => unexpected none
  | fuel + 1 => do
    let c ← command
    blanks
    match ← ahead 2 with
    | ['|', '|'] => return [c]
    | '|' :: _ =>
      skip 1
      lines
      return c :: (← piped command fuel)
    | _ => return [c]

/-- Reads a pipeline. -/
def pipeline (command : Reading Command) : Reading Command := do
  let isNegated ← takeKeyword "!"
  let cs ← piped command ((← get).chars.length + 1)
  let c := match cs with
    | [c] => c
    | cs => .pipeline cs
  return if isNegated then .negated c else c

/-- Reads the rest of a chain of pipelines, after the first of them. -/
def restOfChain (pipeline : Reading Command) : Nat → Command → Reading Command
  | 0, c => return c
  | fuel + 1, c => do
    blanks
    if ← take? "&&" then
      lines
      restOfChain pipeline fuel (.both c (← pipeline))
    else if ← take? "||" then
      lines
      restOfChain pipeline fuel (.either c (← pipeline))
    else return c

/-- Reads a chain of pipelines, given how to read a list within it. -/
def chain (list : Reading Command) : Reading Command := do
  let size := (← get).chars.length + 1
  let p := pipeline (command list size)
  restOfChain p size (← p)

/-- Reads a list of commands within another one. -/
def list : Nat → Reading Command
  | 0 => throw .openQuote
  | fuel + 1 => listOf (chain (list fuel))

/-- Reads the rest of a line of commands, after the first of them. -/
def restOfLine (andOr : Reading Command) : Nat → Command → Reading Command
  | 0, c => return c
  | fuel + 1, c => do
    blanks
    let goOn := fun (c : Command) => do
      blanks
      match ← peek with
      | none => return c
      | some '\n' => return c
      | _ => restOfLine andOr fuel (.sequence c (← andOr))
    match ← ahead 2 with
    | [] => return c
    | '\n' :: _ => return c
    | [';', ';'] => unexpected none
    | ['&', '&'] => unexpected none
    | '&' :: _ => skip 1; goOn (.background c)
    | ';' :: _ => skip 1; goOn c
    | _ => unexpected none

/-- Reads the next line with commands, if there is one. -/
def nextLine : Reading (Option Command) := do
  lines
  if (← peek).isNone then return none
  let size := (← get).chars.length + 1
  let andOr := chain (list size)
  let c ← andOr
  return some (← restOfLine andOr size c)

end Reading

end Bindery.Shell
