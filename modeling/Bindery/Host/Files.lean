import Bindery.Text.Cut
import Bindery.Text.Utf8

/-!
# Bindery — Host — Files

The files around a session.  They stand below a working directory, under paths that are lists of
names; every directory above a file is there too.  A path as it is written is walked name by
name: `.` and nothing stay, `..` goes up, and whatever is walked through has to be a directory.
Above the working directory there is nothing but directories without names.
-/

namespace Bindery

/-- What stands under a path. -/
inductive FileItem where
  | file (bytes : List UInt8)
  | directory
deriving DecidableEq, Inhabited

/-- Why nothing can be read from a path. -/
inductive FileFault where
  | missing
  | notDirectory
  | isDirectory
  | nameTooLong
  | invalidPath
  | notText
deriving DecidableEq, Repr

/-- What is said of a path from which nothing can be read. -/
def FileFault.message : FileFault → String
  | missing => "No such file or directory"
  | notDirectory => "Not a directory"
  | isDirectory => "Is a directory"
  | nameTooLong => "File name too long"
  | invalidPath => "path contains a null character"
  | notText => "stream did not contain valid text"

/-- Files and directories, each under its path from the working directory. -/
abbrev Files := List (List String × FileItem)

/-- A place that a walk can come to. -/
inductive Place where
  | inside (path : List String)
  | outside
deriving DecidableEq

namespace Files

/-- What stands under a path; the working directory itself is there. -/
def item? (fs : Files) (path : List String) : Option FileItem :=
  if path.isEmpty then some .directory else fs.lookup path

/-- Files with an item put under a path. -/
def put (path : List String) (item : FileItem) (fs : Files) : Files :=
  fs.filter (fun p => p.1 ≠ path) ++ [(path, item)]

/-- Files with the directories of a path that are not there yet. -/
def addParents (fs : Files) (path : List String) : Files :=
  (List.range path.length).foldl
    (fun fs n =>
      let dir := path.take n
      if (fs.item? dir).isSome then fs else fs.put dir .directory)
    fs

/-- Files with an item and the directories above it. -/
def add (path : List String) (item : FileItem) (fs : Files) : Files :=
  let path := path.filter fun name => name ≠ "" ∧ name ≠ "."
  if path.isEmpty then fs else (fs.addParents path).put path item

/-- The names that stand directly in a directory. -/
def names (fs : Files) (dir : List String) : List String :=
  fs.filterMap fun p => if p.1.dropLast = dir then p.1.getLast? else none

/-- The most bytes that a name may have. -/
def maxName : Nat := 255

/-- The number of bytes that is too long for a path. -/
def pathBound : Nat := 4096

/-- What stands at a place. -/
def itemAt? (fs : Files) : Place → Option FileItem
  | .inside path => fs.item? path
  | .outside => some .directory

/-- The place that a name leads to from a directory. -/
def step (fs : Files) (place : Place) (name : String) : Except FileFault Place :=
  match fs.itemAt? place with
  | none => .error .missing
  | some (.file _) => .error .notDirectory
  | some .directory =>
    if name = "" ∨ name = "." then .ok place
    else if name = ".." then
      match place with
      | .inside [] => .ok .outside
      | .inside path => .ok (.inside path.dropLast)
      | .outside => .ok .outside
    else if maxName < name.utf8ByteSize then .error .nameTooLong
    else
      match place with
      | .inside path => .ok (.inside (path ++ [name]))
      | .outside => .error .missing

/-- The names of a path, one by one. -/
def pathNames (path : String) : List String :=
  (Text.pieces ['/'] path.toList).map String.ofList

/-- The place that a written path leads to from a directory, whether or not something stands
there. -/
def walkFrom (fs : Files) (directory : Place) (path : String) : Except FileFault Place :=
  if path.toList.contains '\x00' then .error .invalidPath
  else if path.isEmpty then .error .missing
  else if pathBound ≤ path.utf8ByteSize then .error .nameTooLong
  else
    let start := if Text.startsWith path "/" then Place.outside else directory
    (pathNames path).foldlM fs.step start

/-- The place that a written path leads to from the working directory. -/
def walk (fs : Files) (path : String) : Except FileFault Place :=
  fs.walkFrom (.inside []) path

/-- What a written path leads to. -/
def find (fs : Files) (path : String) : Except FileFault FileItem :=
  (fs.walk path).bind fun place =>
    match fs.itemAt? place with
    | some item => .ok item
    | none => .error .missing

/-- The bytes of the file that a written path leads to. -/
def read (fs : Files) (path : String) : Except FileFault (List UInt8) :=
  (fs.find path).bind fun item =>
    match item with
    | .file bytes => .ok bytes
    | .directory => .error .isDirectory

/-- The text of the file that a written path leads to. -/
def readText (fs : Files) (path : String) : Except FileFault String :=
  (fs.read path).bind fun bytes =>
    match Text.Utf8.strict? bytes with
    | some s => .ok s
    | none => .error .notText

end Files

end Bindery
