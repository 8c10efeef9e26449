import Bindery.Proofs.Stacking
import Mathlib.Data.List.Forall2

/-!
# Bindery — Proofs — Journals

A stack of scopes as its history has it.  A journal is kept for each scope: every binding that was
made in it since it was pushed or last emptied, the latest first, with nothing moved and nothing
left out (`Journal`).  What a scope holds is the latest binding of each key in its journal, in the
order in which these were made (`Entries.LatestOf`).

Every change keeps a stack to its journals (`kept_change`), so every run does.  The two ways to look
into a stack agree (`find?_eq_find?_entriesWith`): what is found under a key is the first entry with
that key, among the entries with any beginning of it.
-/

namespace Bindery

/-! ### The latest bindings -/

/-- The entries of `e` are the latest bindings of their keys in `written`, a list with the latest
first, in the order in which these were made. -/
structure Entries.LatestOf (written e : Entries) : Prop where
  latest : ∀ key value, (key, value) ∈ e ↔ written.lookup key = some value
  once : (e.map Prod.fst).Nodup
  order : e.Pairwise fun p q =>
    written.findIdx (·.1 = p.1) < written.findIdx (·.1 = q.1)

theorem Entries.LatestOf.nil : LatestOf [] [] :=
  ⟨by simp, List.nodup_nil, .nil⟩

/-- Setting a key keeps entries to what was written. -/
theorem Entries.LatestOf.put {written e : Entries} (h : LatestOf written e) (key value : String) :
    LatestOf ((key, value) :: written) (e.put key value) where
  latest k v := by
    rw [mem_put_iff, List.lookup_cons]
    by_cases hk : k = key
    · subst hk
      simp [eq_comm]
    · have hb : (k == key) = false := by simpa using hk
      simp [hb, hk, h.latest]
  once := nodup_put key value h.once
  order := by
    have hidx {k : String} (hk : k ≠ key) : ((key, value) :: written).findIdx (·.1 = k) =
        written.findIdx (·.1 = k) + 1 := by
      rw [List.findIdx_cons]
      simp [Ne.symm hk]
    have hne {p : String × String} (hp : p ∈ e.filter fun p => p.1 ≠ key) : p.1 ≠ key := by
      simpa using (List.mem_filter.1 hp).2
    refine List.pairwise_cons.2 ⟨fun q hq => ?_, ?_⟩
    · rw [hidx (hne hq), List.findIdx_cons]
      simp
    · refine (h.order.filter _).imp_of_mem fun hp hq hlt => ?_
      rw [hidx (hne hp), hidx (hne hq)]
      exact Nat.succ_lt_succ hlt

/-! ### Journals -/

/-- What was bound in a scope since it was pushed or last emptied, the latest first. -/
structure Journal where
  kind : ScopeKind
  name : String
  written : Entries
deriving DecidableEq, Repr

namespace Journal

/-- A journal with one more binding. -/
def write (key value : String) (j : Journal) : Journal :=
  { j with written := (key, value) :: j.written }

/-- A journal of a scope that was just emptied. -/
def wipe (j : Journal) : Journal := { j with written := [] }

/-- Journals with the first one of a kind changed, if there is one. -/
def changeFirst (kind : ScopeKind) (f : Journal → Journal) (js : List Journal) : List Journal :=
  js.modify (js.findIdx (·.kind = kind)) f

open ScopeStack (Change)

/-- The journals of all scopes after a change, the innermost first.  A change that is meant for a
kind of which there is no scope, or would pop a global one, is refused and leaves no mark. -/
def note (js : List Journal) : Change → List Journal
  | .set key value => js.modifyHead (write key value)
  | .setIn kind key value => changeFirst kind (write key value) js
  | .push kind name => ⟨kind, name, []⟩ :: js
  | .pop kind =>
    if kind ≠ .global ∧ ∃ j ∈ js, j.kind = kind then (js.dropWhile (·.kind ≠ kind)).tail else js
  | .reset kind => changeFirst kind wipe js

/-- The journals after changes of a new stack. -/
def ofChanges (changes : List Change) : List Journal :=
  changes.foldl note [⟨.global, "global", []⟩]

/-- A scope holds what its journal says. -/
structure Kept (j : Journal) (scope : Scope) : Prop where
  kind : scope.kind = j.kind
  name : scope.name = j.name
  entries : Entries.LatestOf j.written scope.entries

theorem Kept.fresh (kind : ScopeKind) (name : String) :
    Kept ⟨kind, name, []⟩ (Scope.fresh kind name) := ⟨rfl, rfl, .nil⟩

theorem Kept.set {j : Journal} {scope : Scope} (h : j.Kept scope) (key value : String) :
    (j.write key value).Kept (scope.set key value) :=
  ⟨h.kind, h.name, h.entries.put key value⟩

theorem Kept.clear {j : Journal} {scope : Scope} (h : j.Kept scope) : j.wipe.Kept scope.clear :=
  ⟨h.kind, h.name, .nil⟩

end Journal

/-! ### Every change keeps a stack to its journals -/

namespace ScopeStack

open List (Forall₂)
open Journal (Kept)

variable {js : List Journal} {l : List Scope} {s : ScopeStack}

/-- The first of a kind is at the same place in both lists. -/
theorem kept_changeFirst {f : Journal → Journal} {g : Scope → Scope}
    (hfg : ∀ j scope, Kept j scope → Kept (f j) (g scope)) (kind : ScopeKind)
    (h : Forall₂ Kept js l) :
    Forall₂ Kept (Journal.changeFirst kind f js) (l.modify (l.findIdx (·.kind = kind)) g) := by
  unfold Journal.changeFirst
  induction h with
  | nil => exact .nil
  | @cons j scope _ _ hj h ih =>
      rw [List.findIdx_cons, List.findIdx_cons, hj.kind]
      by_cases hk : j.kind = kind
      · simpa [hk] using ⟨hfg j scope hj, h⟩
      · simpa [hk] using ⟨hj, ih⟩

theorem kept_dropWhile (kind : ScopeKind) (h : Forall₂ Kept js l) :
    Forall₂ Kept (js.dropWhile (·.kind ≠ kind)) (l.dropWhile (·.kind ≠ kind)) := by
  induction h with
  | nil => exact .nil
  | cons hj h ih =>
      rw [List.dropWhile_cons, List.dropWhile_cons, hj.kind]
      split
      · exact ih
      · exact .cons hj h

theorem exists_kind_iff (kind : ScopeKind) (h : Forall₂ Kept js l) :
    (∃ scope ∈ l, scope.kind = kind) ↔ ∃ j ∈ js, j.kind = kind := by
  induction h with
  | nil => simp
  | cons hj h ih => simp [hj.kind, ih]

theorem kept_change (h : Forall₂ Kept js s.scopes) (c : Change) :
    Forall₂ Kept (Journal.note js c) (s.change c).scopes := by
  cases c with
  | set key value =>
      rw [scopes_eq_current] at h
      rw [change, scopes_set]
      cases h with
      | cons hj h => exact .cons (hj.set key value) h
  | setIn kind key value =>
      rw [change, setIn, scopes_changeIn kind (f := Scope.set key value) fun _ => ⟨rfl, rfl⟩]
      exact kept_changeFirst (fun _ _ hj => hj.set key value) kind h
  | push kind name => exact .cons (.fresh kind name) h
  | pop kind =>
      rw [change, Journal.note]
      by_cases hk : kind = .global
      · rw [if_neg (by simp [hk]), pop, if_pos hk]
        exact h
      · simp only [scopes_pop hk, exists_kind_iff kind h, ne_eq, hk, not_false_eq_true, true_and]
        split
        · simpa only [List.drop_one] using List.forall₂_drop 1 (kept_dropWhile kind h)
        · exact h
  | reset kind =>
      rw [change, reset, scopes_changeIn kind (f := Scope.clear) fun _ => ⟨rfl, rfl⟩]
      exact kept_changeFirst (fun _ _ hj => hj.clear) kind h

theorem kept_run (h : Forall₂ Kept js s.scopes) (changes : List Change) :
    Forall₂ Kept (changes.foldl Journal.note js) (s.run changes).scopes := by
  induction changes generalizing js s with
  | nil => exact h
  | cons c rest ih => exact ih (kept_change h c)

/-! ### Two ways to look into a stack -/

/-- The entries that start with a text, scope by scope. -/
theorem entriesWith_eq (start : String) (s : ScopeStack) :
    s.entriesWith start = s.scopes.flatMap fun scope =>
      scope.entries.filter fun p => start.toList <+: p.1.toList := by
  have hstarts (key : String) :
      Text.startsWith key start = decide (start.toList <+: key.toList) := by
    rw [Bool.eq_iff_iff, decide_eq_true_iff, Text.startsWith, Option.isSome_iff_exists]
    exact exists_congr fun rest => Text.after?_eq_some_iff.trans eq_comm
  simp only [entriesWith, entries, List.filter_flatMap, hstarts]

/-- What is found under a key is the first entry with that key, among the entries whose keys start
with any beginning of it. -/
theorem find?_eq_find?_entriesWith (start rest : String) (s : ScopeStack) :
    s.find? (start ++ rest) =
      (List.find? (fun p => p.1 = start ++ rest) (s.entriesWith start)).map Prod.snd := by
  rw [find?_eq_entries, Entries.find?_eq, entriesWith, List.find?_filter]
  congr 2
  funext p
  by_cases hp : p.1 = start ++ rest
  · have hstarts : Text.startsWith p.1 start = true := by
      rw [hp, Text.startsWith, String.toList_append, Text.after?_append]
      rfl
    simp [hp, ← hstarts]
  · simp [hp]

/-- **A stack keeps to its history.**  After any changes of a new stack, refused ones among them,
each scope holds the latest binding of every key that was bound in it since it was pushed or last
emptied, each key once and the latest first.  The entries that start with a text are those of the
innermost scope, then those of the next one, and so on, in the order in which they stand there.
What is found under a key is the first entry with that key, whatever beginning of the key the
entries are listed by. -/
theorem stack_keeps_journals (changes : List Change) :
    Forall₂ Kept (Journal.ofChanges changes) (empty.run changes).scopes ∧
      (∀ start, (empty.run changes).entriesWith start =
        (empty.run changes).scopes.flatMap fun scope =>
          scope.entries.filter fun p => start.toList <+: p.1.toList) ∧
      ∀ start rest, (empty.run changes).find? (start ++ rest) =
        (List.find? (fun p => p.1 = start ++ rest)
          ((empty.run changes).entriesWith start)).map Prod.snd :=
  ⟨kept_run (.cons (.fresh .global "global") .nil) changes, fun start => entriesWith_eq start _,
    fun start rest => find?_eq_find?_entriesWith start rest _⟩

/-- A key that is bound anew is written once more, and a pop that is refused leaves no mark. -/
example : Journal.ofChanges [.set "a" "1", .push .page "page", .set "b" "2", .set "b" "3",
    .pop .feature] =
      [⟨.page, "page", [("b", "3"), ("b", "2")]⟩, ⟨.global, "global", [("a", "1")]⟩] := by
  decide

end ScopeStack

end Bindery
