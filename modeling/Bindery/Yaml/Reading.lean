import Bindery.Yaml.Scan
import Bindery.Yaml.Node
import Bindery.Yaml.Scalar

/-!
# Bindery — Yaml — Reading

Reading a YAML text as JSON.  Keys become texts and may not occur twice; a node with a local tag
becomes an object whose only key is the tag.  An alias is read as the node it stands for, which
may happen a hundred times for each part of the document, and collections may be nested
`maxDepth` deep.
-/

namespace Bindery.Yaml

open Bindery.Text

mutual
/-- How many parts a node has: every scalar and alias is one, and every collection has two more
than what is in it. -/
def Node.parts : Node → Nat
  | .scalar .. => 1
  | .alias _ => 1
  | .sequence _ items => partsOfItems items + 2
  | .mapping _ entries => partsOfEntries entries + 2

/-- How many parts the items of a sequence have. -/
def partsOfItems : List Node → Nat
  | [] => 0
  | n :: rest => n.parts + partsOfItems rest

/-- How many parts the entries of a mapping have. -/
def partsOfEntries : List (Node × Node) → Nat
  | [] => 0
  | (k, v) :: rest => k.parts + v.parts + partsOfEntries rest
end

/-- A text without the exclamation mark in front, if anything comes after it. -/
def withoutBang (tag : List UInt8) : List UInt8 :=
  match tag with
  | b :: c :: rest => if b = '!'.toUInt8 then c :: rest else tag
  | _ => tag

/-- The name of a local tag: one that starts with an exclamation mark. -/
def localName? (tag : Option Tag) : Option String :=
  tag.bind fun t =>
    if t.head? = some '!'.toUInt8 then
      (Utf8.strict? t).map fun _ => "!" ++ Utf8.lossy (withoutBang (withoutBang t))
    else none

/-- The tag of a scalar that says how to read it. -/
def globalTag? (tag : Option Tag) : Option String :=
  (tag.filter fun t => t.head? ≠ some '!'.toUInt8).map Utf8.lossy

/-- What a scalar with a tag stands for. -/
def scalar? (tag : Option Tag) (isPlain : Bool) (text : String) : Option Scalar :=
  match globalTag? tag with
  | some t => Scalar.ofTagged? t text
  | none => if isPlain then Scalar.ofPlain? text else some (.text text)

/-- The deepest nesting of collections. -/
def maxDepth : Nat := 128

/-- How often aliases may be read for each part of a document. -/
def aliasesPerPart : Nat := 100

/-- Reading values, with the number of aliases that may still be read. -/
abbrev Read := StateT Nat Option

namespace Read

/-- The node that is read for a node: an alias stands for another. -/
def target (anchors : Anchors) (n : Node) : Read Node := do
  match n with
  | .alias number =>
    let left ← get
    if left = 0 then failure
    set (left - 1)
    match anchors.find? number with
    | some (.alias _) => failure
    | some n => return n
    | none => failure
  | n => return n

/-- The scalar that a key is. -/
def keyOf (anchors : Anchors) (n : Node) : Read Scalar := do
  match ← target anchors n with
  | .scalar tag isPlain text =>
    if (localName? tag).isSome then failure
    match scalar? tag isPlain text with
    | some s => return s
    | none => failure
  | _ => failure

/-- A value under its local tag, if it has one. -/
def under (tag : Option Tag) (v : Json) : Json :=
  match localName? tag with
  | some name => .object [(name, v)]
  | none => v

/-- The fields that entries are, given the keys before them and what reads their values. -/
def fields (anchors : Anchors) (value : Node → Read Json) (before : List Scalar) :
    List (Node × Node) → Read (List (String × Json))
  | [] => return []
  | (k, v) :: rest => do
    let key ← keyOf anchors k
    if before.any key.same then failure
    match key.key? with
    | some name =>
      let v ← value v
      return (name, v) :: (← fields anchors value (key :: before) rest)
    | none => failure

/-- The values that nodes are. -/
def items (value : Node → Read Json) : List Node → Read (List Json)
  | [] => return []
  | n :: rest => return (← value n) :: (← items value rest)

/-- The value that a node is, given what reads the nodes in it, if there may be any. -/
def valueWith (anchors : Anchors) (inner : Option (Node → Read Json)) (n : Node) : Read Json := do
  match ← target anchors n, inner with
  | .scalar tag isPlain text, _ =>
    match scalar? tag isPlain text with
    | some s => return under tag s.toJson
    | none => failure
  | .sequence tag ns, some value => return under tag (.array (← items value ns))
  | .mapping tag entries, some value =>
    return under tag (.object (← fields anchors value [] entries))
  | _, _ => failure

/-- The value that a node is, with at most so many collections within each other. -/
def valueOf (anchors : Anchors) : Nat → Node → Read Json
  | 0 => valueWith anchors none
  | depth + 1 => valueWith anchors (some (valueOf anchors depth))

end Read

/-- The value of a document. -/
def Document.value? (d : Document) : Option Json :=
  ((Read.valueOf d.anchors maxDepth d.root).run (aliasesPerPart * d.root.parts)).map Prod.fst

/-- The JSON value of a YAML text. -/
def read? (s : String) : Option Json :=
  (((tokens? s).bind document?).bind Document.value?).map Json.canonical

end Bindery.Yaml
