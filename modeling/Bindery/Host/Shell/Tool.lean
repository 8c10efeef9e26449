import Bindery.Decimal.Reading
import Bindery.Host.Files
import Bindery.Text.Octets

/-!
# Bindery — Host — Shell — Tool

The programs that a shell can start.  Each takes its arguments and what it reads, sees the files
and the environment, and gives what it prints, what it complains, and its status.
-/

namespace Bindery.Shell

open Bindery.Text

/-- What a program is started with. -/
structure Job where
  args : List String
  input : String
  files : Files
  place : Place
  environment : List (String × String)

/-- What a program leaves behind. -/
structure Outcome where
  output : String
  errors : String
  status : Nat
  files : Files

namespace Job

/-- What is left behind by a program that prints. -/
def prints (j : Job) (s : String) : Outcome := ⟨s, "", 0, j.files⟩

/-- What is left behind by a program that does nothing but end. -/
def ends (j : Job) (status : Nat) : Outcome := ⟨"", "", status, j.files⟩

/-- What is left behind by a program that complains. -/
def complains (j : Job) (s : String) (status : Nat) : Outcome := ⟨"", s ++ "\n", status, j.files⟩

/-- The place that a path leads to. -/
def walk (j : Job) (path : String) : Except FileFault Place :=
  j.files.walkFrom j.place (Octets.toText path)

/-- What stands where a path leads. -/
def item (j : Job) (path : String) : Except FileFault FileItem :=
  (j.walk path).bind fun place =>
    match j.files.itemAt? place with
    | some item => .ok item
    | none => .error .missing

/-- The bytes of a file, or of what the program reads for a dash. -/
def content (j : Job) (path : String) : Except FileFault String :=
  if path = "-" ∨ path = "/dev/stdin" then .ok j.input
  else if path = "/dev/null" then .ok ""
  else
    (j.item path).bind fun item =>
      match item with
      | .file bytes => .ok (Octets.ofBytes bytes)
      | .directory => .error .isDirectory

end Job

namespace Outcome

/-- One outcome after another. -/
def followedBy (o : Outcome) (p : Outcome) : Outcome :=
  ⟨o.output ++ p.output, o.errors ++ p.errors, max o.status p.status, p.files⟩

end Outcome

namespace Tool

/-- Options of one letter and the other arguments; after `--` there are no more options. -/
def options : List String → List Char × List String
  | [] => ([], [])
  | "--" :: rest => ([], rest)
  | arg :: rest =>
    let (letters, others) := options rest
    if arg.startsWith "-" && arg.length > 1 then (arg.toList.drop 1 ++ letters, others)
    else (letters, arg :: others)

/-- What is said of an option that is unknown. -/
def unknownOption (j : Job) (name : String) (c : Char) (status : Nat) : Outcome :=
  j.complains (name ++ ": invalid option -- '" ++ String.singleton c ++ "'\nTry '" ++ name ++
    " --help' for more information.") status

/-- What is said where an argument is missing. -/
def missingOperand (j : Job) (name : String) : Outcome :=
  j.complains (name ++ ": missing operand\nTry '" ++ name ++ " --help' for more information.") 1

/-- Does something with the bytes of each file, or with what is read when no file is named. -/
def overFiles (j : Job) (paths : List String) (complain : String → FileFault → String)
    (f : String → String) : Outcome :=
  let paths := if paths.isEmpty then ["-"] else paths
  paths.foldl
    (fun o path =>
      match j.content path with
      | .ok s => o.followedBy (j.prints (f s))
      | .error fault => o.followedBy (j.complains (complain path fault) 1))
    (j.ends 0)

/-- The lines of a text, each with the break that ends it. -/
def linesOf (s : String) : List String :=
  let (done, current) := s.toList.foldl
    (fun (done, current) c =>
      if c = '\n' then (String.ofList ((c :: current).reverse) :: done, [])
      else (done, c :: current))
    (([] : List String), ([] : List Char))
  (if current.isEmpty then done else String.ofList current.reverse :: done).reverse

/-- The lines of a text without their breaks. -/
def bareLines (s : String) : List String :=
  (linesOf s).map fun l => if l.endsWith "\n" then String.ofList l.toList.dropLast else l

/-- Lines with a break after each. -/
def unlines (ls : List String) : String :=
  String.join (ls.map (· ++ "\n"))

/-- Prints files one after the other; `-n` counts their lines. -/
def cat (j : Job) : Outcome :=
  let (letters, paths) := options j.args
  match letters.find? fun c => c ≠ 'n' && c ≠ 'u' with
  | some c => unknownOption j "cat" c 1
  | none =>
    let o := overFiles j paths (fun path fault => "cat: " ++ path ++ ": " ++ fault.message) id
    if letters.contains 'n' then
      let numbered := (linesOf o.output).zipIdx.map fun (l, i) =>
        let n := decimal (i + 1)
        String.ofList (List.replicate (6 - n.length) ' ') ++ n ++ "\t" ++ l
      { o with output := String.join numbered }
    else o

/-- The names in a directory, sorted by their bytes. -/
def listing (j : Job) (letters : List Char) (place : Place) : List String :=
  match place with
  | .outside => []
  | .inside path =>
    let names := ((j.files.names path).map Octets.ofText).mergeSort fun a b => a ≤ b
    let shown := if letters.contains 'a' then [".", ".."] ++ names
      else if letters.contains 'A' then names
      else names.filter fun n => !n.startsWith "."
    if letters.contains 'r' then shown.reverse else shown

/-- Lists directories and files. -/
def ls (j : Job) : Outcome :=
  let (letters, paths) := options j.args
  let paths := (if paths.isEmpty then ["."] else paths).mergeSort fun a b => a ≤ b
  let missing := paths.filterMap fun path =>
    match j.item path with
    | .error fault => some ("ls: cannot access '" ++ path ++ "': " ++ fault.message ++ "\n")
    | .ok _ => none
  let isFile := fun path => match j.item path with
    | .ok (.file _) => true
    | .ok .directory => letters.contains 'd'
    | .error _ => false
  let files := paths.filter isFile
  let directories := paths.filter fun path => (j.item path).toBool && !isFile path
  let sections := directories.map fun path =>
    let names := match j.walk path with
      | .ok place => listing j letters place
      | .error _ => []
    (if paths.length > 1 then path ++ ":\n" else "") ++ unlines names
  let sections := if files.isEmpty then sections else unlines files :: sections
  ⟨"\n".intercalate sections, String.join missing, if missing.isEmpty then 0 else 2, j.files⟩

/-- The count of an option such as `-n 3`, `-n3` or `-3`, the letter it belongs to, and the
paths. -/
def counted (letter : Char) (count : String) : List String → Char × String × List String
  | [] => (letter, count, [])
  | "--" :: rest => (letter, count, rest)
  | "-n" :: n :: rest => counted 'n' n rest
  | "-c" :: n :: rest => counted 'c' n rest
  | arg :: rest =>
    match arg.toList with
    | '-' :: 'n' :: n => counted 'n' (String.ofList n) rest
    | '-' :: 'c' :: n => counted 'c' (String.ofList n) rest
    | '-' :: d :: n =>
      if d.isDigit then counted 'n' (String.ofList (d :: n)) rest
      else
        let (l, c, paths) := counted letter count rest
        (l, c, arg :: paths)
    | _ =>
      let (l, c, paths) := counted letter count rest
      (l, c, arg :: paths)

/-- Prints texts of several files with the name of each before it. -/
def withHeadings (j : Job) (name : String) (paths : List String) (f : String → String) : Outcome :=
  let paths := if paths.isEmpty then ["-"] else paths
  let heading := fun (i : Nat) (path : String) =>
    if paths.length > 1 then
      (if i = 0 then "" else "\n") ++ "==> " ++
        (if path = "-" then "standard input" else path) ++ " <==\n"
    else ""
  paths.zipIdx.foldl
    (fun o (path, i) =>
      match j.content path with
      | .ok s => o.followedBy (j.prints (heading i path ++ f s))
      | .error .isDirectory =>
        (o.followedBy (j.prints (heading i path))).followedBy
          (j.complains (name ++ ": error reading '" ++ path ++ "': Is a directory") 1)
      | .error fault =>
        o.followedBy (j.complains (name ++ ": cannot open '" ++ path ++ "' for reading: " ++
          fault.message) 1))
    (j.ends 0)

/-- Refuses a number of lines or bytes. -/
def badCount (j : Job) (name : String) (letter : Char) (count : String) : Outcome :=
  let unit := if letter = 'c' then "bytes" else "lines"
  j.complains (name ++ ": invalid number of " ++ unit ++ ": '" ++ count ++ "'") 1

/-- Prints the first lines or bytes of files. -/
def head (j : Job) : Outcome :=
  let (letter, count, paths) := counted 'n' "10" j.args
  let (fromEnd, digits) := match count.toList with
    | '-' :: cs => (true, cs)
    | cs => (false, cs)
  match natOfDigits? 10 digits with
  | none => badCount j "head" letter count
  | some n =>
    let first := fun {α : Type} (xs : List α) => xs.take (if fromEnd then xs.length - n else n)
    withHeadings j "head" paths fun s =>
      if letter = 'c' then String.ofList (first s.toList) else String.join (first (linesOf s))

/-- Prints the last lines or bytes of files. -/
def tail (j : Job) : Outcome :=
  let (letter, count, paths) := counted 'n' "10" j.args
  let (fromStart, digits) := match count.toList with
    | '+' :: cs => (true, cs)
    | '-' :: cs => (false, cs)
    | cs => (false, cs)
  match natOfDigits? 10 digits with
  | none => badCount j "tail" letter count
  | some n =>
    let last := fun {α : Type} (xs : List α) =>
      xs.drop (if fromStart then n - 1 else xs.length - n)
    withHeadings j "tail" paths fun s =>
      if letter = 'c' then String.ofList (last s.toList) else String.join (last (linesOf s))

/-- How many words a text has. -/
def wordCount (s : String) : Nat :=
  let isGap := fun c : Char => c = ' ' || ('\t' ≤ c && c ≤ '\r')
  let step := fun ((n, inWord) : Nat × Bool) c =>
    if isGap c then (n, false) else (if inWord then n else n + 1, true)
  (s.toList.foldl step (0, false)).1

/-- Counts lines, words and bytes. -/
def wc (j : Job) : Outcome :=
  let (letters, paths) := options j.args
  let wants := fun c => letters.isEmpty || letters.contains c
  let counts := fun s : String =>
    (if wants 'l' then [(s.toList.filter (· = '\n')).length] else []) ++
      (if wants 'w' then [wordCount s] else []) ++
      (if wants 'c' ∨ letters.contains 'm' then [s.length] else [])
  let sizes := paths.filterMap fun path => (j.content path).toOption.map String.length
  let width :=
    if paths.isEmpty then (if (counts "").length > 1 then 7 else 1)
    else if paths.length = 1 ∧ (counts "").length = 1 then 1
    else (decimal (sizes.foldl (· + ·) 0)).length
  let row := fun (ns : List Nat) (name : String) =>
    " ".intercalate (ns.map fun n =>
      let d := decimal n
      String.ofList (List.replicate (width - d.length) ' ') ++ d) ++
      (if name.isEmpty then "" else " " ++ name) ++ "\n"
  if paths.isEmpty then j.prints (row (counts j.input) "")
  else
    let o := paths.foldl
      (fun o path =>
        match j.content path with
        | .ok s => o.followedBy (j.prints (row (counts s) path))
        | .error fault =>
          let o := o.followedBy (j.complains ("wc: " ++ path ++ ": " ++ fault.message) 1)
          if fault = .isDirectory then o.followedBy (j.prints (row (counts "") path)) else o)
      (j.ends 0)
    if paths.length > 1 then
      let texts := paths.filterMap fun path => (j.content path).toOption
      let total := texts.foldl
        (fun ns s => (ns.zip (counts s)).map fun (a, b) => a + b) (counts "")
      o.followedBy (j.prints (row total "total"))
    else o

/-- The number that a line starts with. -/
def leadingNumber (s : String) : Int :=
  let (negative, cs) := match s.toList.dropWhile fun c => c = ' ' || c = '\t' with
    | '-' :: cs => (true, cs)
    | cs => (false, cs)
  let n := (natOfDigits? 10 (cs.takeWhile Char.isDigit)).getD 0
  if negative then -(n : Int) else n

/-- Lines of which no two neighbours are the same. -/
def withoutRepeats (same : String → String → Bool) : List String → List String
  | [] => []
  | [l] => [l]
  | l :: m :: rest =>
    if same l m then withoutRepeats same (l :: rest)
    else l :: withoutRepeats same (m :: rest)
termination_by ls => ls.length

/-- Sorts lines by their bytes, or by the numbers they start with. -/
def sort (j : Job) : Outcome :=
  let (letters, paths) := options j.args
  match letters.find? fun c => !(['r', 'n', 'u', 'f'].contains c) with
  | some c => unknownOption j "sort" c 2
  | none =>
    let paths := if paths.isEmpty then ["-"] else paths
    match paths.find? fun path => !(j.content path).toBool with
    | some path => j.complains ("sort: cannot read: " ++ path ++ ": " ++
        (match j.content path with
          | .error fault => fault.message
          | .ok _ => "")) 2
    | none =>
      let ls := paths.flatMap fun path =>
        ((j.content path).toOption.map bareLines).getD []
      let fold := fun s : String => if letters.contains 'f' then s.map Char.toUpper else s
      let before := fun a b : String =>
        if letters.contains 'n' then
          let (m, n) := (leadingNumber a, leadingNumber b)
          if m = n then (if letters.contains 'u' then true else fold a ≤ fold b) else m < n
        else if fold a = fold b then letters.contains 'u' || a ≤ b
        else fold a < fold b
      let same := fun a b : String =>
        if letters.contains 'n' then leadingNumber a == leadingNumber b else fold a == fold b
      let sorted := ls.mergeSort (if letters.contains 'r' then fun a b => before b a else before)
      let sorted := if letters.contains 'u' then withoutRepeats same sorted else sorted
      j.prints (unlines sorted)

/-- Runs of the same line, each with its length. -/
def runs : List String → List (String × Nat)
  | [] => []
  | l :: rest =>
    match runs rest with
    | (m, n) :: more => if l = m then (m, n + 1) :: more else (l, 1) :: (m, n) :: more
    | [] => [(l, 1)]

/-- Prints each run of the same line once. -/
def uniq (j : Job) : Outcome :=
  let (letters, paths) := options j.args
  overFiles j (paths.take 1) (fun path fault => "uniq: " ++ path ++ ": " ++ fault.message) fun s =>
    unlines ((runs (bareLines s)).filterMap fun (l, n) =>
      let d := decimal n
      if (letters.contains 'd' ∧ n = 1) ∨ (letters.contains 'u' ∧ n ≠ 1) then none
      else if letters.contains 'c' then
        some (String.ofList (List.replicate (7 - d.length) ' ') ++ d ++ " " ++ l)
      else some l)

/-- The characters from one to another. -/
def charRange (a b : Char) : List Char :=
  (List.range (b.toNat + 1 - a.toNat)).map fun i => Char.ofNat (a.toNat + i)

/-- The classes of characters. -/
def classes : List (String × List Char) :=
  [("[:lower:]", charRange 'a' 'z'), ("[:upper:]", charRange 'A' 'Z'),
    ("[:digit:]", charRange '0' '9'), ("[:alpha:]", charRange 'A' 'Z' ++ charRange 'a' 'z'),
    ("[:alnum:]", charRange '0' '9' ++ charRange 'A' 'Z' ++ charRange 'a' 'z'),
    ("[:space:]", charRange '\t' '\r' ++ [' ']), ("[:blank:]", ['\t', ' ']),
    ("[:punct:]", charRange '!' '/' ++ charRange ':' '@' ++ charRange '[' '\x60' ++
      charRange '\x7b' '~')]

/-- The characters of a set. -/
def charSet : Nat → List Char → List Char
  | 0, _ => []
  | _, [] => []
  | fuel + 1, c :: cs =>
    match classes.find? fun k => k.1.toList.isPrefixOf (c :: cs) with
    | some (name, members) => members ++ charSet fuel ((c :: cs).drop name.length)
    | none =>
      match c, cs with
      | '\\', d :: rest =>
        let e := match d with
          | 'n' => '\n'
          | 't' => '\t'
          | 'r' => '\r'
          | d => d
        e :: charSet fuel rest
      | c, '-' :: d :: rest => charRange c d ++ charSet fuel rest
      | c, cs => c :: charSet fuel cs

/-- A text in which each run of a character of a set is that character once. -/
def squeezed (set : List Char) : List Char → List Char
  | [] => []
  | c :: cs =>
    match squeezed set cs with
    | d :: rest => if c = d ∧ set.contains c then d :: rest else c :: d :: rest
    | [] => [c]

/-- Replaces, deletes or squeezes characters. -/
def tr (j : Job) : Outcome :=
  let (letters, sets) := options j.args
  let setOf := fun s : String => charSet (s.length + 1) s.toList
  let isIn := fun (set : List Char) (c : Char) =>
    set.contains c != (letters.contains 'c' || letters.contains 'C')
  let cs := j.input.toList
  match sets with
  | [] => missingOperand j "tr"
  | [a] =>
    if letters.contains 'd' then
      j.prints (String.ofList (cs.filter fun c => !isIn (setOf a) c))
    else if letters.contains 's' then j.prints (String.ofList (squeezed (setOf a) cs))
    else j.complains ("tr: missing operand after '" ++ a ++
      "'\nTwo strings must be given when translating.\nTry 'tr --help' for more information.") 1
  | a :: b :: _ =>
    let (froms, tos) := (setOf a, setOf b)
    if letters.contains 'd' then
      let cs := cs.filter fun c => !isIn froms c
      j.prints (String.ofList (if letters.contains 's' then squeezed tos cs else cs))
    else
      let last := tos.getLast?
      let replace := fun c : Char =>
        if letters.contains 'c' ∨ letters.contains 'C' then
          (if froms.contains c then c else last.getD c)
        else
          match froms.findIdx? (· = c) with
          | some i => ((tos[i]?).orElse fun _ => last).getD c
          | none => c
      let cs := cs.map replace
      j.prints (String.ofList (if letters.contains 's' then squeezed tos cs else cs))

/-- The whole number that a text is. -/
def whole? (s : String) : Option Int :=
  let (negative, digits) := Decimal.takeSign s.toList
  (natOfDigits? 10 digits).map fun n => if negative then -(n : Int) else n

/-- Counts from one number to another. -/
def seq (j : Job) : Outcome :=
  let bad := fun s : String => j.complains ("seq: invalid floating point argument: '" ++ s ++
    "'\nTry 'seq --help' for more information.") 1
  match j.args.find? fun s => (whole? s).isNone with
  | some s => bad s
  | none =>
    let count := fun (first step last : Int) =>
      if step = 0 then 0
      else if 0 < step then (if last < first then 0 else ((last - first) / step).toNat + 1)
      else (if first < last then 0 else ((first - last) / (-step)).toNat + 1)
    let list := fun (first step last : Int) =>
      j.prints (unlines ((List.range (count first step last)).map fun (i : Nat) =>
        signed (first + step * (i : Int))))
    match j.args.filterMap whole? with
    | [last] => list 1 1 last
    | [first, last] => list first 1 last
    | [first, step, last] =>
      if step = 0 then
        j.complains ("seq: invalid Zero increment value: '" ++ (j.args[1]?).getD "" ++
          "'\nTry 'seq --help' for more information.") 1
      else list first step last
    | _ => missingOperand j "seq"

/-- A path without slashes at its end. -/
def withoutSlashes (s : String) : List Char :=
  (s.toList.reverse.dropWhile (· = '/')).reverse

/-- The last name of a path. -/
def basename (j : Job) : Outcome :=
  let lastName := fun s : String =>
    let cs := withoutSlashes s
    if cs.isEmpty then (if s.isEmpty then "" else "/")
    else String.ofList (cs.reverse.takeWhile (· ≠ '/')).reverse
  match j.args with
  | [] => missingOperand j "basename"
  | [path] => j.prints (lastName path ++ "\n")
  | path :: suffix :: _ =>
    let name := lastName path
    let short := if name.endsWith suffix && name.length > suffix.length then
        String.ofList (name.toList.take (name.length - suffix.length))
      else name
    j.prints (short ++ "\n")

/-- A path without its last name. -/
def dirname (j : Job) : Outcome :=
  let above := fun s : String =>
    let cs := withoutSlashes s
    if cs.isEmpty then (if s.startsWith "/" then "/" else ".")
    else
      let front := cs.reverse.dropWhile (· ≠ '/')
      if front.isEmpty then "."
      else
        let front := front.dropWhile (· = '/')
        if front.isEmpty then "/" else String.ofList front.reverse
  if j.args.isEmpty then missingOperand j "dirname" else j.prints (unlines (j.args.map above))

/-- Waits, which takes no time that counts here. -/
def sleep (j : Job) : Outcome :=
  let isDuration := fun s : String =>
    let cs := s.toList
    let number := match cs.getLast? with
      | some c => if ['s', 'm', 'h', 'd'].contains c then cs.dropLast else cs
      | none => cs
    match Decimal.read? (String.ofList number) with
    | some (.finite x) => !x.negative
    | some (.infinite negative) => !negative
    | _ => false
  match (options j.args).1 with
  | c :: _ => unknownOption j "sleep" c 1
  | [] =>
    match j.args, j.args.find? fun s => !isDuration s with
    | [], _ => missingOperand j "sleep"
    | _, none => j.ends 0
    | _, some s =>
      j.complains ("sleep: invalid time interval '" ++ s ++
        "'\nTry 'sleep --help' for more information.") 1

/-- Prints variables of the environment. -/
def printenv (j : Job) : Outcome :=
  if j.args.isEmpty then
    j.prints (unlines (j.environment.map fun (k, v) => k ++ "=" ++ v))
  else
    let found := j.args.filterMap fun name => j.environment.lookup name
    ⟨unlines found, "", if found.length = j.args.length then 0 else 1, j.files⟩

/-- A program that makes or removes something under each path. -/
def overPaths (j : Job) (name : String) (paths : List String)
    (f : Files → String → Except String Files) : Outcome :=
  if paths.isEmpty then missingOperand j name
  else
    paths.foldl
      (fun o path =>
        match f o.files path with
        | .ok files => { o with files }
        | .error s => { o with errors := o.errors ++ name ++ ": " ++ s ++ "\n", status := 1 })
      (j.ends 0)

/-- Whether something stands under a path, and in a directory that is there. -/
def placeOf (j : Job) (files : Files) (path : String) :
    Except FileFault (List String × Option FileItem) :=
  (files.walkFrom j.place (Octets.toText path)).bind fun place =>
    match place with
    | .outside => .error .isDirectory
    | .inside p =>
      match files.item? p.dropLast with
      | some .directory => .ok (p, files.item? p)
      | some (.file _) => .error .notDirectory
      | none => .error .missing

/-- Makes directories. -/
def mkdir (j : Job) : Outcome :=
  let (letters, paths) := options j.args
  overPaths j "mkdir" paths fun files path =>
    let complain := fun s => .error ("cannot create directory '" ++ path ++ "': " ++ s)
    if letters.contains 'p' then
      match files.walkFrom j.place (Octets.toText path) with
      | .ok (.inside p) => match files.item? p with
        | some (.file _) => complain "File exists"
        | some .directory => .ok files
        | none => .ok (files.add p .directory)
      | .ok .outside => .ok files
      | .error .missing =>
        match j.place with
        | .inside here =>
          .ok (files.add (here ++ (Files.pathNames (Octets.toText path))) .directory)
        | .outside => complain "Permission denied"
      | .error fault => complain fault.message
    else
      match placeOf j files path with
      | .ok (p, none) => .ok (files.put p .directory)
      | .ok (_, some _) => complain "File exists"
      | .error fault => complain fault.message

/-- Makes files that are not there yet. -/
def touch (j : Job) : Outcome :=
  let (_, paths) := options j.args
  overPaths j "touch" paths fun files path =>
    match placeOf j files path with
    | .ok (p, none) => .ok (files.put p (.file []))
    | .ok (_, some _) => .ok files
    | .error .isDirectory => .ok files
    | .error fault => .error ("cannot touch '" ++ path ++ "': " ++ fault.message)

/-- Removes files, and with `-r` directories with all that is in them. -/
def rm (j : Job) : Outcome :=
  let (letters, paths) := options j.args
  let deep := letters.contains 'r' || letters.contains 'R'
  let force := letters.contains 'f'
  if paths.isEmpty && force then j.ends 0
  else
    overPaths j "rm" paths fun files path =>
      let complain := fun s => .error ("cannot remove '" ++ path ++ "': " ++ s)
      match placeOf j files path with
      | .ok (p, some (.file _)) => .ok (files.filter fun f => f.1 ≠ p)
      | .ok (p, some .directory) =>
        if deep then .ok (files.filter fun f => !p.isPrefixOf f.1) else complain "Is a directory"
      | .ok (_, none) => if force then .ok files else complain "No such file or directory"
      | .error fault => if force then .ok files else complain fault.message

/-- Removes empty directories. -/
def rmdir (j : Job) : Outcome :=
  let (_, paths) := options j.args
  overPaths j "rmdir" paths fun files path =>
    let complain := fun s => .error ("failed to remove '" ++ path ++ "': " ++ s)
    match placeOf j files path with
    | .ok (p, some .directory) =>
      if (files.names p).isEmpty then .ok (files.filter fun f => f.1 ≠ p)
      else complain "Directory not empty"
    | .ok (_, some (.file _)) => complain "Not a directory"
    | .ok (_, none) => complain "No such file or directory"
    | .error fault => complain fault.message

/-- The path that a file is copied or moved to: one in the directory that is named, or the one
that is named. -/
def targetOf (j : Job) (path target : String) : String :=
  match j.item target with
  | .ok .directory =>
    target ++ "/" ++ String.ofList ((withoutSlashes path).reverse.takeWhile (· ≠ '/')).reverse
  | _ => target

/-- Copies a file, and removes it from where it was when it is moved. -/
def transfer (j : Job) (name : String) (moves : Bool) : Outcome :=
  match (options j.args).2 with
  | [path, target] =>
    match j.item path with
    | .error fault =>
      j.complains (name ++ ": cannot stat '" ++ path ++ "': " ++ fault.message) 1
    | .ok .directory =>
      j.complains (name ++ ": -r not specified; omitting directory '" ++ path ++ "'") 1
    | .ok (.file bytes) =>
      match placeOf j j.files (targetOf j path target), j.walk path with
      | .ok (p, _), .ok (.inside source) =>
        let files := j.files.put p (.file bytes)
        let files := if moves && p ≠ source then files.filter fun f => f.1 ≠ source else files
        ⟨"", "", 0, files⟩
      | .error fault, _ =>
        j.complains (name ++ ": cannot create regular file '" ++ target ++ "': " ++ fault.message) 1
      | _, _ => j.ends 1
  | [] =>
    j.complains (name ++ ": missing file operand\nTry '" ++ name ++
      " --help' for more information.") 1
  | path :: _ =>
    j.complains (name ++ ": missing destination file operand after '" ++ path ++ "'\nTry '" ++
      name ++ " --help' for more information.") 1

/-- Prints what is read, and writes it into files. -/
def tee (j : Job) : Outcome :=
  let (letters, paths) := options j.args
  let o := j.prints j.input
  paths.foldl
    (fun o path =>
      match placeOf j o.files path with
      | .ok (_, some .directory) =>
        { o with errors := o.errors ++ "tee: " ++ path ++ ": Is a directory\n", status := 1 }
      | .ok (p, old) =>
        let before := match old with
          | some (.file bytes) => if letters.contains 'a' then bytes else []
          | _ => []
        { o with files := o.files.put p (.file (before ++ Octets.toBytes j.input)) }
      | .error fault =>
        let errors := o.errors ++ "tee: " ++ path ++ ": " ++ fault.message ++ "\n"
        { o with errors, status := 1 })
    o

/-- Prints lines with their characters in the other order. -/
def rev (j : Job) : Outcome :=
  let refuse := fun (path : String) (fault : FileFault) => "rev: " ++ path ++ ": " ++ fault.message
  overFiles j (options j.args).2 refuse fun s =>
    String.join ((linesOf s).map fun l =>
      let ends := l.endsWith "\n"
      let cs := if ends then l.toList.dropLast else l.toList
      Octets.ofText (String.ofList (Octets.toText (String.ofList cs)).toList.reverse) ++
        (if ends then "\n" else ""))

/-- Prints lines in the other order. -/
def tac (j : Job) : Outcome :=
  overFiles j (options j.args).2
    (fun path fault => "tac: failed to open '" ++ path ++ "' for reading: " ++ fault.message)
    fun s => String.join (linesOf s).reverse

/-- The programs by their names. -/
def all : List (String × (Job → Outcome)) :=
  [("cat", cat), ("ls", ls), ("head", head), ("tail", tail), ("wc", wc), ("sort", sort),
    ("uniq", uniq), ("tr", tr), ("seq", seq), ("basename", basename), ("dirname", dirname),
    ("sleep", sleep), ("printenv", printenv), ("mkdir", mkdir), ("touch", touch), ("rm", rm),
    ("rmdir", rmdir), ("cp", fun j => transfer j "cp" false), ("mv", fun j => transfer j "mv" true),
    ("tee", tee), ("rev", rev), ("tac", tac), ("uname", fun j => j.prints "Linux\n"),
    ("whoami", fun j => j.prints "root\n")]

end Tool

end Bindery.Shell
