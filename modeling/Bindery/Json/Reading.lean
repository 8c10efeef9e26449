import Bindery.Json.Token

/-!
# Bindery — Json — Reading

Reading JSON.  Tokens are taken one by one by `Reader.step`, which keeps the arrays and objects
that are open; at most `maxDepth` of them may be open at once.  `asWritten?` gives the value with
its fields as the text has them, and `read?` the canonical one.
-/

namespace Bindery.Json

/-- The most arrays and objects that may be open at once. -/
def maxDepth : Nat := 127

/-- An array or object that is open, its items or fields the latest first. -/
inductive Frame where
  | array (items : List Json)
  | object (fields : List (String × Json)) (key : String)

/-- What may come next. -/
inductive Expected where
  | value
  | firstItem
  | firstKey (fields : List (String × Json))
  | key (fields : List (String × Json))
  | colon (fields : List (String × Json)) (key : String)
  | more
  | nothing (v : Json)

/-- A text read up to some token.  Of an object that waits for a key or a colon the fields are
kept in `expected`, of every other one that is open in `frames`. -/
structure Reader where
  frames : List Frame
  depth : Nat
  expected : Expected

namespace Reader

/-- The start of a text. -/
def start : Reader := ⟨[], 0, .value⟩

/-- A value that is complete goes to the array or object around it. -/
def put (frames : List Frame) (depth : Nat) (v : Json) : Reader :=
  match frames with
  | [] => ⟨[], depth, .nothing v⟩
  | .array items :: rest => ⟨.array (v :: items) :: rest, depth, .more⟩
  | .object fields key :: rest => ⟨.object ((key, v) :: fields) key :: rest, depth, .more⟩

/-- A token where a value begins. -/
def beginValue (r : Reader) : Token → Option Reader
  | .null => some (put r.frames r.depth .null)
  | .bool b => some (put r.frames r.depth (.bool b))
  | .number n => some (put r.frames r.depth (.number n))
  | .string s => some (put r.frames r.depth (.string s))
  | .beginArray =>
    if r.depth < maxDepth then some ⟨.array [] :: r.frames, r.depth + 1, .firstItem⟩ else none
  | .beginObject =>
    if r.depth < maxDepth then some ⟨r.frames, r.depth + 1, .firstKey []⟩ else none
  | _ => none

/-- Takes one token. -/
def step (r : Reader) (t : Token) : Option Reader :=
  match r.expected, t with
  | .value, t => r.beginValue t
  | .firstItem, .endArray =>
    match r.frames with
    | .array items :: rest => some (put rest (r.depth - 1) (.array items.reverse))
    | _ => none
  | .firstItem, t => r.beginValue t
  | .firstKey _, .endObject => some (put r.frames (r.depth - 1) (.object []))
  | .firstKey fields, .string key => some { r with expected := .colon fields key }
  | .key fields, .string key => some { r with expected := .colon fields key }
  | .colon fields key, .colon => some ⟨.object fields key :: r.frames, r.depth, .value⟩
  | .more, .comma =>
    match r.frames with
    | .array _ :: _ => some { r with expected := .value }
    | .object fields _ :: rest => some ⟨rest, r.depth, .key fields⟩
    | [] => none
  | .more, .endArray =>
    match r.frames with
    | .array items :: rest => some (put rest (r.depth - 1) (.array items.reverse))
    | _ => none
  | .more, .endObject =>
    match r.frames with
    | .object fields _ :: rest => some (put rest (r.depth - 1) (.object fields.reverse))
    | _ => none
  | _, _ => none

/-- The value at the end of a text. -/
def finish? (r : Reader) : Option Json :=
  match r.expected with
  | .nothing v => some v
  | _ => none

end Reader

/-- The value that tokens write. -/
def ofTokens? (ts : List Token) : Option Json :=
  (ts.foldlM Reader.step Reader.start).bind Reader.finish?

/-- The value that a text writes, with its fields as they stand there. -/
def asWritten? (s : String) : Option Json :=
  (tokens? s.toList).bind ofTokens?

/-- The value that a text writes. -/
def read? (s : String) : Option Json :=
  (asWritten? s).map canonical

end Bindery.Json
