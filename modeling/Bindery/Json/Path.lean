import Bindery.Json.Text
import Bindery.Json.Reading
import Bindery.Text.Blank
import Bindery.Text.Cut
import Bindery.Text.Numeral

/-!
# Bindery — Json — Path

Paths into a JSON value.  A path is `$` and steps after it: `.name` or `['name']` for a field,
`[n]` for an item, and `.*` or `[*]` for every field or item.  `Step.take?` takes one step off the
front of a path and leaves less than it was given (`length_lt_of_take?`); `select` follows the
steps from the whole value on.
-/

namespace Bindery.Json.Path

open Bindery.Text

/-- A step of a path. -/
inductive Step where
  | field (name : String)
  | index (n : Nat)
  | every
deriving DecidableEq, Repr

/-- Why a text is no path.  Every cause but one names the path. -/
inductive Fault where
  | noRoot (path : String)
  | descent
  | emptyField (path : String)
  | unclosed (path : String)
  | badIndex (inner path : String)
  | unexpected (rest path : String)
deriving DecidableEq, Repr

/-- What is said of a text that is no path. -/
def Fault.message : Fault → String
  | .noRoot path => s!"json path must start with '$': {path}"
  | .descent => "recursive descent is not supported"
  | .emptyField path => s!"empty field name in '{path}'"
  | .unclosed path => s!"unclosed '[' in '{path}'"
  | .badIndex inner path => s!"invalid index '{inner}' in '{path}'"
  | .unexpected rest path => s!"unexpected '{rest}' in '{path}'"

/-- Whether a character ends the name of a field after a point. -/
def endsName (c : Char) : Bool :=
  c = '.' || c = '['

/-- What stands between two marks. -/
def between? (mark : Char) : List Char → Option (List Char)
  | [] => none
  | c :: cs =>
    if c = mark ∧ cs.getLast? = some mark then some cs.dropLast else none

/-- What stands between two quotation marks of one kind. -/
def unquoted? (cs : List Char) : Option (List Char) :=
  (between? '\'' cs).orElse fun _ => between? '"' cs

/-- The step that stands between brackets, without the blanks around it. -/
def Step.ofBracketed? (inner : List Char) : Option Step :=
  if inner = ['*'] then some .every
  else
    match unquoted? inner with
    | some name => some (.field (String.ofList name))
    | none => (word? 10 inner).map .index

/-- Takes the first step off what is left of a path. -/
def Step.take? (path : String) : List Char → Except Fault (Step × List Char)
  | '.' :: '.' :: _ => .error .descent
  | '.' :: '*' :: rest => .ok (.every, rest)
  | '.' :: cs =>
    let name := cs.takeWhile fun c => !endsName c
    if name.isEmpty then .error (.emptyField path)
    else .ok (.field (String.ofList name), cs.dropWhile fun c => !endsName c)
  | '[' :: cs =>
    match splitOn? ']' cs with
    | none => .error (.unclosed path)
    | some (inner, rest) =>
      let inner := trimList inner
      match Step.ofBracketed? inner with
      | some s => .ok (s, rest)
      | none => .error (.badIndex (String.ofList inner) path)
  | cs => .error (.unexpected (String.ofList cs) path)

theorem length_splitOn? {m : Char} {cs a b : List Char} (e : splitOn? m cs = some (a, b)) :
    b.length < cs.length := by
  rw [eq_append_of_splitOn? e]
  simp only [List.length_append, List.length_cons]
  omega

theorem length_dropWhile_le (p : Char → Bool) (cs : List Char) :
    (cs.dropWhile p).length ≤ cs.length :=
  (List.dropWhile_sublist p).length_le

theorem length_lt_of_take? {path : String} {cs rest : List Char} {s : Step}
    (e : Step.take? path cs = .ok (s, rest)) : rest.length < cs.length := by
  unfold Step.take? at e
  split at e
  · cases e
  · cases e; simp only [List.length_cons]; omega
  · dsimp only at e
    split at e
    · cases e
    · cases e
      simp only [List.length_cons]
      have := length_dropWhile_le (fun c => !endsName c) (by assumption)
      omega
  · split at e
    · cases e
    · next h =>
      dsimp only at e
      split at e
      · cases e
        have := length_splitOn? h
        simp only [List.length_cons]; omega
      · cases e
  · cases e

/-- The steps that are left of a path. -/
def steps? (path : String) (cs : List Char) : Except Fault (List Step) :=
  if cs.isEmpty then .ok []
  else
    match e : Step.take? path cs with
    | .error f => .error f
    | .ok (s, rest) =>
      have := length_lt_of_take? e
      (steps? path rest).map (s :: ·)
termination_by cs.length

/-- The steps of a path. -/
def parse (expression : String) : Except Fault (List Step) :=
  let path := trim expression
  match path.toList with
  | '$' :: rest => steps? path rest
  | _ => .error (.noRoot path)

/-- The values that a step leads to. -/
def Step.follow : Step → Json → List Json
  | .field name, .object fields => (lookup name fields).toList
  | .index n, .array items => items[n]?.toList
  | .every, .array items => items
  | .every, .object fields => fields.map Prod.snd
  | _, _ => []

/-- The values that steps lead to, in order. -/
def follow (steps : List Step) (values : List Json) : List Json :=
  steps.foldl (fun values s => values.flatMap s.follow) values

/-- The values in a value that a path leads to. -/
def select (root : Json) (expression : String) : Except Fault (List Json) :=
  (parse expression).map fun steps => follow steps [root]

/-- Why a path gives no text. -/
inductive Failure where
  | notJson
  | invalid (f : Fault)
  | nothing (expression : String)
deriving DecidableEq, Repr

/-- The text that a path leads to in a source: that of the value it leads to, or of an array of
all of them. -/
def extract (expression source : String) : Except Failure String :=
  match read? source with
  | none => .error .notJson
  | some root =>
    match select root expression with
    | .error f => .error (.invalid f)
    | .ok [] => .error (.nothing expression)
    | .ok [v] => .ok v.plainText
    | .ok values => .ok (Json.array values).text

end Bindery.Json.Path
