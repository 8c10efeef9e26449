import Bindery.Yaml.Token

/-!
# Bindery — Yaml — Node

The tree of a YAML document.  `Parse` takes tokens off a list, and keeps the anchors met so far.
An anchor has the number of the different names before it, and an alias stands for the last node
whose anchor has the number of its name (`Anchors.find?`).
-/

namespace Bindery.Yaml

/-- A node of a document. -/
inductive Node where
  | scalar (tag : Option Tag) (isPlain : Bool) (text : String)
  | sequence (tag : Option Tag) (items : List Node)
  | mapping (tag : Option Tag) (entries : List (Node × Node))
  | alias (number : Nat)
deriving Inhabited

/-- The anchors of a document: the number of each name, the numbers of the anchored nodes in the
order of their starts, the latest first, and those nodes by their places in that order. -/
structure Anchors where
  names : List (String × Nat)
  numbers : List Nat
  nodes : List (Nat × Node)

namespace Anchors

/-- No anchor. -/
def none : Anchors := ⟨[], [], []⟩

/-- One more anchor. -/
def declare (name : String) (a : Anchors) : Anchors :=
  let number := a.names.length
  { a with
    names := (name, number) :: a.names.filter fun p => p.1 ≠ name
    numbers := number :: a.numbers }

/-- The node that a number stands for. -/
def find? (a : Anchors) (number : Nat) : Option Node :=
  match a.numbers.findIdx? (· = number) with
  | some i => a.nodes.lookup (a.numbers.length - 1 - i)
  | _ => .none

end Anchors

/-- Tokens that are left, what handles stand for, and the anchors so far. -/
structure Parser where
  tokens : List Token
  handles : List (String × List UInt8)
  anchors : Anchors

/-- Taking tokens off a list. -/
abbrev Parse := StateT Parser Option

namespace Parse

/-- The next token. -/
def peek : Parse (Option Token) := do
  return (← get).tokens.head?

/-- Takes the next token. -/
def skip : Parse Unit :=
  modify fun p => { p with tokens := p.tokens.drop 1 }

/-- Takes the next token when it is as `p` says. -/
def skipIf (p : Token → Bool) : Parse Bool := do
  let isThere := (← peek).any p
  if isThere then skip
  return isThere

/-- What stands where nothing is written. -/
def empty : Node := .scalar none true ""

/-- The number of an anchor. -/
def aliasOf (name : String) : Parse Node := do
  match (← get).anchors.names.lookup name with
  | some number => return .alias number
  | none => failure

/-- Takes an anchor. -/
def anchor : Parse (Option String) := do
  match ← peek with
  | some (.anchor name) => skip; return some name
  | _ => return none

/-- Takes a tag. -/
def tag : Parse (Option Tag) := do
  match ← peek with
  | some (.tag name) =>
    skip
    match name.resolve? (← get).handles with
    | some t => return some t
    | none => failure
  | _ => return none

/-- Takes an anchor and a tag, in either order. -/
def properties : Parse (Option String × Option Tag) := do
  match ← anchor with
  | some a => return (some a, ← tag)
  | none =>
    let t ← tag
    return (← if t.isSome then anchor else pure none, t)

/-- The tag that says nothing of a scalar but that it is one. -/
def scalarTag (t : Option Tag) : Option Tag :=
  t.filter (· ≠ octets "!")

/-- Whether a token ends an entry of a block mapping. -/
def endsBlockPart : Token → Bool
  | .key | .value | .blockEnd => true
  | _ => false

/-- Whether a token ends an entry of a block sequence. -/
def endsItem : Token → Bool
  | .blockEntry | .blockEnd => true
  | _ => false

/-- Whether a token ends a key or a value between brackets. -/
def endsFlowPart : Token → Bool
  | .value | .flowEntry | .flowSequenceEnd | .flowMappingEnd => true
  | _ => false

/-- Whether a token starts an entry of a sequence. -/
def isDash : Token → Bool
  | .blockEntry => true
  | _ => false

/-- Whether a token comes before a key. -/
def isKey : Token → Bool
  | .key => true
  | _ => false

/-- Whether a token comes before a value. -/
def isValue : Token → Bool
  | .value => true
  | _ => false

/-- Whether a token ends a block collection. -/
def isBlockEnd : Token → Bool
  | .blockEnd => true
  | _ => false

/-- Whether a token stands between the entries of a flow collection. -/
def isComma : Token → Bool
  | .flowEntry => true
  | _ => false

/-- Whether a token ends a flow sequence. -/
def isSequenceEnd : Token → Bool
  | .flowSequenceEnd => true
  | _ => false

/-- Whether a token ends a flow mapping. -/
def isMappingEnd : Token → Bool
  | .flowMappingEnd => true
  | _ => false

/-- Reads a node, unless the next token ends it before it starts. -/
def orEmpty (ends : Token → Bool) (node : Parse Node) : Parse Node := do
  if (← peek).any ends then return empty else node

/-- Reads the value of an entry, if there is one. -/
def valueOf (ends : Token → Bool) (node : Parse Node) : Parse Node := do
  if ← skipIf isValue then orEmpty ends node else return empty

/-- Reads the entries of a block sequence. -/
def blockItems (node : Parse Node) : Nat → List Node → Parse (List Node)
  | 0, _ => failure
  | fuel + 1, items => do
    if ← skipIf isDash then
      let item ← orEmpty endsItem node
      blockItems node fuel (item :: items)
    else if ← skipIf isBlockEnd then return items.reverse
    else failure

/-- Reads the entries of a sequence that is a value and no further right than its key. -/
def flushItems (node : Parse Node) : Nat → List Node → Parse (List Node)
  | 0, _ => failure
  | fuel + 1, items => do
    if ← skipIf isDash then
      let item ← orEmpty (fun t => isDash t || endsBlockPart t) node
      flushItems node fuel (item :: items)
    else return items.reverse

/-- Reads the entries of a block mapping. -/
def blockEntries (node : Parse Node) :
    Nat → List (Node × Node) → Parse (List (Node × Node))
  | 0, _ => failure
  | fuel + 1, entries => do
    if ← skipIf isKey then
      let key ← orEmpty endsBlockPart node
      let value ← valueOf endsBlockPart node
      blockEntries node fuel ((key, value) :: entries)
    else if ← skipIf isBlockEnd then return entries.reverse
    else failure

/-- Reads the entries of a flow collection with what reads one of them; commas stand between
them, and one may stand after the last. -/
def flowEntries {α : Type} (entry : Parse α) (isEnd : Token → Bool) :
    Nat → List α → Parse (List α)
  | 0, _ => failure
  | fuel + 1, entries => do
    if ← skipIf isEnd then return entries.reverse
    else if entries.isEmpty then
      let e ← entry
      flowEntries entry isEnd fuel [e]
    else if ← skipIf isComma then
      if ← skipIf isEnd then return entries.reverse
      else
        let e ← entry
        flowEntries entry isEnd fuel (e :: entries)
    else failure

/-- Reads an entry of a flow mapping. -/
def flowPair (node : Parse Node) : Parse (Node × Node) := do
  if ← skipIf isKey then
    let key ← orEmpty endsFlowPart node
    let value ← valueOf endsFlowPart node
    return (key, value)
  else
    let key ← node
    return (key, empty)

/-- Reads an entry of a flow sequence; one with a key is a mapping of its own. -/
def flowItem (node : Parse Node) : Parse Node := do
  if (← peek).any isKey then
    let pair ← flowPair node
    return .mapping none [pair]
  else node

/-- Reads what a node holds, given how to read the nodes in it. -/
def content (inner : Bool → Bool → Parse Node) (fuel : Nat) (inBlock flush : Bool)
    (isNamed : Bool) (t : Option Tag) : Parse Node := do
  match ← peek with
  | some (.plain text) => skip; return .scalar (scalarTag t) true text
  | some (.quoted text) => skip; return .scalar (scalarTag t) false text
  | some .flowSequence =>
    skip
    return .sequence t (← flowEntries (flowItem (inner false false)) isSequenceEnd fuel [])
  | some .flowMapping =>
    skip
    return .mapping t (← flowEntries (flowPair (inner false false)) isMappingEnd fuel [])
  | some .blockEntry =>
    if flush then return .sequence t (← flushItems (inner true false) fuel [])
    else if isNamed then return .scalar t true ""
    else failure
  | some .blockSequence =>
    if inBlock then
      skip
      return .sequence t (← blockItems (inner true false) fuel [])
    else if isNamed then return .scalar t true ""
    else failure
  | some .blockMapping =>
    if inBlock then
      skip
      return .mapping t (← blockEntries (inner true true) fuel [])
    else if isNamed then return .scalar t true ""
    else failure
  | _ => if isNamed then return .scalar t true "" else failure

/-- Declares an anchor around what reads its node. -/
def anchored (name : Option String) (read : Parse Node) : Parse Node := do
  match name with
  | none => read
  | some name =>
    let place := (← get).anchors.numbers.length
    modify fun p => { p with anchors := p.anchors.declare name }
    let n ← read
    modify fun p => { p with anchors := { p.anchors with nodes := (place, n) :: p.anchors.nodes } }
    return n

/-- Reads a node.  In a block it may be a block collection; `flush` says whether it may be a
sequence no further right than its key. -/
def node : Nat → Bool → Bool → Parse Node
  | 0, _, _ => failure
  | fuel + 1, inBlock, flush => do
    match ← peek with
    | some (.alias name) => skip; aliasOf name
    | _ =>
      let (name, t) ← properties
      anchored name (content (node fuel) fuel inBlock flush (name.isSome || t.isSome) t)

/-- Takes the directives of a document; each handle is given one meaning at most, and the
version is said once at most. -/
def directives : Nat → Bool → Parse Unit
  | 0, _ => failure
  | fuel + 1, versionSaid => do
    match ← peek with
    | some .version => if versionSaid then failure else skip; directives fuel true
    | some (.handle name os) =>
      if ((← get).handles.lookup name).isSome then failure
      skip
      modify fun p => { p with handles := (name, os) :: p.handles }
      directives fuel versionSaid
    | _ => return ()

/-- Whether a token belongs to what is around documents. -/
def isAround : Token → Bool
  | .version | .handle _ _ | .documentStart | .documentEnd => true
  | _ => false

/-- Takes the marks that end a document. -/
def documentEnds : Nat → Parse Unit
  | 0 => return ()
  | fuel + 1 => do
    match ← peek with
    | some .documentEnd => skip; documentEnds fuel
    | _ => return ()

/-- Reads a document, which has to be the only one. -/
def document (fuel : Nat) : Parse Node := do
  let isExplicit := match ← peek with
    | some .version | some (.handle _ _) | some .documentStart => true
    | _ => false
  if isExplicit then
    directives fuel false
    match ← peek with
    | some .documentStart => skip
    | _ => failure
  modify fun p => { p with handles := p.handles ++ standardHandles }
  let t ← peek
  let n ← if t.isNone || (isExplicit && t.any isAround) then pure empty else node fuel true false
  documentEnds fuel
  if (← peek).isSome then failure
  return n

end Parse

/-- A document with its anchors. -/
structure Document where
  root : Node
  anchors : Anchors

/-- The document that tokens write. -/
def document? (ts : List Token) : Option Document :=
  (Parse.document (2 * ts.length + 2) ⟨ts, [], .none⟩).map fun (n, p) => ⟨n, p.anchors⟩

end Bindery.Yaml
