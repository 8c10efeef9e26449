/-!
# Bindery — Act

Actions that change a state.  An action gives a value or fails, and leaves a state in either case;
what it changed before it failed stays changed.
-/

namespace Bindery

/-- An action in a state. -/
abbrev Act (σ ε α : Type) : Type := ExceptT ε (StateM σ) α

namespace Act

variable {σ τ ε ε' α β : Type}

/-- An action with its failures taken for those of another kind. -/
def failingAs (f : ε → ε') (a : Act σ ε α) : Act σ ε' α := fun s =>
  match a s with
  | (.ok x, s) => (.ok x, s)
  | (.error e, s) => (.error (f e), s)

/-- An action in a part of a state; the other parts stay as they are. -/
def inPart (part : σ → τ) (replace : τ → σ → σ) (a : Act τ ε α) : Act σ ε α := fun s =>
  match a (part s) with
  | (r, t) => (r, replace t s)

/-- An action that gives what another one ended in. -/
def outcome (a : Act σ ε α) : Act σ ε' (Except ε α) := fun s =>
  match a s with
  | (r, s) => (.ok r, s)

/-- The action that ends in a given way. -/
def ofExcept (r : Except ε α) : Act σ ε α := fun s => (r, s)

end Act

end Bindery
