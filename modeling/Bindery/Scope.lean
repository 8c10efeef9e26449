import Bindery.Entries
import Bindery.Text.Cut

/-!
# Bindery — Scope

Bindings in a stack of scopes.  At the bottom is the global scope, which is always there;
feature and page scopes, and further global ones, are pushed above it.  A name is looked up from
the innermost scope outwards, and set in the innermost scope or in the innermost one of a kind.

Failing changes change nothing: an operation that can fail gives either the new stack or the
cause, never both.
-/

namespace Bindery

/-- What a scope belongs to. -/
inductive ScopeKind where
  | global
  | feature
  | page
deriving DecidableEq, Repr, Inhabited

/-- The name of a kind of scope. -/
def ScopeKind.word : ScopeKind → String
  | .global => "global"
  | .feature => "feature"
  | .page => "page"

/-- Why a stack refuses an operation. -/
inductive ScopeFault where
  | unbound (key : String)
  | noSuchScope (kind : ScopeKind)
  | globalScope
deriving DecidableEq, Repr

/-- What is said of a refusal. -/
def ScopeFault.message : ScopeFault → String
  | .unbound key => s!"unbound key: {key}"
  | .noSuchScope kind => s!"no {kind.word} scope on the stack"
  | .globalScope => "the global scope cannot be popped"

/-- One layer of bindings. -/
structure Scope where
  kind : ScopeKind
  name : String
  entries : Entries
deriving DecidableEq, Repr, Inhabited

namespace Scope

/-- A scope without bindings. -/
def fresh (kind : ScopeKind) (name : String) : Scope := ⟨kind, name, []⟩

/-- A scope with a key bound. -/
def set (key value : String) (s : Scope) : Scope :=
  { s with entries := s.entries.put key value }

/-- A scope without its bindings. -/
def clear (s : Scope) : Scope :=
  { s with entries := [] }

end Scope

/-- Scopes, the innermost first, above the global one. -/
structure ScopeStack where
  pushed : List Scope
  base : Entries
deriving DecidableEq, Repr, Inhabited

namespace ScopeStack

/-- The global scope alone, without bindings. -/
def empty : ScopeStack := ⟨[], []⟩

/-- The global scope at the bottom. -/
def bottom (s : ScopeStack) : Scope := ⟨.global, "global", s.base⟩

/-- All scopes, the innermost first. -/
def scopes (s : ScopeStack) : List Scope := s.pushed ++ [s.bottom]

/-- The innermost scope. -/
def current (s : ScopeStack) : Scope :=
  s.pushed.headD s.bottom

/-- The number of scopes. -/
def depth (s : ScopeStack) : Nat := s.pushed.length + 1

/-- The bindings of every scope, the innermost first; outer ones that an inner one shadows are
among them. -/
def entries (s : ScopeStack) : Entries :=
  s.scopes.flatMap Scope.entries

/-- The value of a key, from the innermost scope that binds it. -/
def find? (key : String) (s : ScopeStack) : Option String :=
  s.scopes.findSome? fun scope => scope.entries.find? key

/-- The value of a key that has to be bound. -/
def get (key : String) (s : ScopeStack) : Except ScopeFault String :=
  match s.find? key with
  | some v => .ok v
  | none => .error (.unbound key)

/-- The bindings whose key starts with a text. -/
def entriesWith (start : String) (s : ScopeStack) : Entries :=
  s.entries.filter fun p => Text.startsWith p.1 start

/-- Binds a key in the innermost scope. -/
def set (key value : String) (s : ScopeStack) : ScopeStack :=
  match s.pushed with
  | [] => { s with base := s.base.put key value }
  | scope :: rest => { s with pushed := scope.set key value :: rest }

/-- Changes the first scope of a kind. -/
def changeFirst (kind : ScopeKind) (f : Scope → Scope) : List Scope → Option (List Scope)
  | [] => none
  | scope :: rest =>
    if scope.kind = kind then some (f scope :: rest)
    else (changeFirst kind f rest).map (scope :: ·)

/-- Changes the innermost scope of a kind. -/
def changeIn (kind : ScopeKind) (f : Scope → Scope) (s : ScopeStack) :
    Except ScopeFault ScopeStack :=
  match changeFirst kind f s.pushed with
  | some pushed => .ok { s with pushed }
  | none =>
    if kind = .global then .ok { s with base := (f s.bottom).entries }
    else .error (.noSuchScope kind)

/-- Binds a key in the innermost scope of a kind. -/
def setIn (kind : ScopeKind) (key value : String) (s : ScopeStack) :
    Except ScopeFault ScopeStack :=
  s.changeIn kind (Scope.set key value)

/-- Drops the bindings of the innermost scope of a kind. -/
def reset (kind : ScopeKind) (s : ScopeStack) : Except ScopeFault ScopeStack :=
  s.changeIn kind Scope.clear

/-- Pushes a scope without bindings. -/
def push (kind : ScopeKind) (name : String) (s : ScopeStack) : ScopeStack :=
  { s with pushed := Scope.fresh kind name :: s.pushed }

/-- The scopes up to and with the first one of a kind, and those after it. -/
def cutAfter? (kind : ScopeKind) : List Scope → Option (List Scope × List Scope)
  | [] => none
  | scope :: rest =>
    if scope.kind = kind then some ([scope], rest)
    else (cutAfter? kind rest).map fun (a, b) => (scope :: a, b)

/-- Pops scopes up to and with the innermost one of a kind; they are returned in the order in
which they were popped. -/
def pop (kind : ScopeKind) (s : ScopeStack) : Except ScopeFault (List Scope × ScopeStack) :=
  if kind = .global then .error .globalScope
  else
    match cutAfter? kind s.pushed with
    | some (popped, pushed) => .ok (popped, { s with pushed })
    | none => .error (.noSuchScope kind)

/-- A change of a stack. -/
inductive Change where
  | set (key value : String)
  | setIn (kind : ScopeKind) (key value : String)
  | push (kind : ScopeKind) (name : String)
  | pop (kind : ScopeKind)
  | reset (kind : ScopeKind)
deriving DecidableEq, Repr

/-- The stack after a change; one that is refused leaves it as it is. -/
def change (s : ScopeStack) : Change → ScopeStack
  | .set key value => s.set key value
  | .setIn kind key value => (s.setIn kind key value).toOption.getD s
  | .push kind name => s.push kind name
  | .pop kind => ((s.pop kind).toOption.map Prod.snd).getD s
  | .reset kind => (s.reset kind).toOption.getD s

/-- The stack after a list of changes. -/
def run (s : ScopeStack) (changes : List Change) : ScopeStack :=
  changes.foldl change s

theorem find?_set_self (key value : String) (s : ScopeStack) :
    (s.set key value).find? key = some value := by
  cases s with
  | mk pushed base =>
    cases pushed <;>
      simp [set, find?, scopes, bottom, Scope.set, Entries.find?_put_self]

end ScopeStack

end Bindery
