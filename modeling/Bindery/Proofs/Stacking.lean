import Bindery.Proofs.Bindings

/-!
# Bindery — Proofs — Stacking

A stack is the global scope alone, or a scope on top of a stack (`ScopeStack.induction`).  An
operation that is meant for a kind of scope ends at a scope on top that is of this kind, and goes on
with the stack below otherwise (`changeIn_under`, `pop_under`).  As lists of scopes, the first of
the kind is changed, or all scopes up to it go (`scopes_changeIn`, `scopes_pop`).
-/

namespace Bindery.ScopeStack

/-- A stack with a scope on top of it. -/
def under (top : Scope) (s : ScopeStack) : ScopeStack := { s with pushed := top :: s.pushed }

/-- A stack is built from the global scope by putting scopes on top. -/
@[elab_as_elim]
theorem induction {motive : ScopeStack → Prop} (base : ∀ e, motive ⟨[], e⟩)
    (under : ∀ top s, motive s → motive (s.under top)) (s : ScopeStack) : motive s := by
  obtain ⟨pushed, e⟩ := s
  induction pushed with
  | nil => exact base e
  | cons top rest ih => exact under top ⟨rest, e⟩ ih

variable {kind : ScopeKind} {s : ScopeStack}

@[simp] theorem current_under (top : Scope) (s : ScopeStack) : (s.under top).current = top := rfl

@[simp] theorem scopes_under (top : Scope) (s : ScopeStack) :
    (s.under top).scopes = top :: s.scopes := rfl

theorem scopes_base (e : Entries) : (⟨[], e⟩ : ScopeStack).scopes = [⟨.global, "global", e⟩] := rfl

theorem under_inj {top other : Scope} {s t : ScopeStack} (h : s.under top = t.under other) :
    top = other ∧ s = t := by
  obtain ⟨hpushed, hbase⟩ := ScopeStack.mk.inj h
  obtain ⟨htop, hrest⟩ := List.cons.inj hpushed
  exact ⟨htop, by cases s; cases t; cases hrest; cases hbase; rfl⟩

/-- A scope on top that is not the global one stands on a stack. -/
theorem exists_under (h : s.current.kind ≠ .global) :
    ∃ below : ScopeStack, s = below.under s.current := by
  cases s using induction with
  | base e => exact absurd rfl h
  | under top s _ => exact ⟨s, rfl⟩

/-! ### Operations meant for a kind -/

theorem changeIn_under (kind : ScopeKind) (f : Scope → Scope) (top : Scope) (s : ScopeStack) :
    (s.under top).changeIn kind f =
      if top.kind = kind then .ok (s.under (f top)) else (s.changeIn kind f).map (under top) := by
  unfold changeIn under
  rw [changeFirst]
  by_cases hk : top.kind = kind
  · simp only [hk, if_true]
  · simp only [hk, if_false]
    cases changeFirst kind f s.pushed with
    | some pushed => rfl
    | none =>
        simp only [Option.map_none]
        split <;> rfl

theorem pop_under (h : kind ≠ .global) (top : Scope) (s : ScopeStack) :
    (s.under top).pop kind =
      if top.kind = kind then .ok ([top], s)
      else (s.pop kind).map fun (popped, t) => (top :: popped, t) := by
  unfold pop under
  rw [if_neg h, if_neg h, cutAfter?]
  by_cases hk : top.kind = kind
  · simp only [hk, if_true]
  · simp only [hk, if_false]
    cases cutAfter? kind s.pushed <;> rfl

theorem pop_under_of_eq {top : Scope} (hkind : kind ≠ .global) (h : top.kind = kind)
    (s : ScopeStack) : (s.under top).pop kind = .ok ([top], s) := by
  rw [pop_under hkind, if_pos h]

/-- Only a kind of which there is no scope cannot be popped. -/
theorem pop_eq_error_iff (h : kind ≠ .global) {e : ScopeFault} :
    s.pop kind = .error e ↔ e = .noSuchScope kind ∧ ∀ scope ∈ s.scopes, scope.kind ≠ kind := by
  induction s using induction with
  | base entries =>
      rw [pop, if_neg h, scopes_base, List.forall_mem_singleton]
      simp [cutAfter?, h.symm, eq_comm]
  | under top s ih =>
      rw [pop_under h, scopes_under, List.forall_mem_cons]
      by_cases hk : top.kind = kind
      · simp [hk]
      · simp only [hk, if_false, ne_eq, not_false_eq_true, true_and, ← ih]
        cases s.pop kind <;> simp [Except.map]

theorem change_setIn_under_of_eq {top : Scope} (h : top.kind = kind) (key value : String)
    (s : ScopeStack) :
    (s.under top).change (.setIn kind key value) = s.under (top.set key value) := by
  rw [change, setIn, changeIn_under, if_pos h]
  rfl

theorem change_setIn_under_of_ne {top : Scope} (h : top.kind ≠ kind) (key value : String)
    (s : ScopeStack) :
    (s.under top).change (.setIn kind key value) =
      (s.change (.setIn kind key value)).under top := by
  rw [change, setIn, changeIn_under, if_neg h, change, setIn]
  cases s.changeIn kind (Scope.set key value) <;> rfl

theorem run_append (s : ScopeStack) (before later : List Change) :
    s.run (before ++ later) = (s.run before).run later :=
  List.foldl_append

/-! ### Scopes as a list -/

/-- Changing the innermost scope of a kind changes the first one of the list, if there is one. -/
theorem scopes_changeIn (kind : ScopeKind) {f : Scope → Scope}
    (hf : ∀ scope, (f scope).kind = scope.kind ∧ (f scope).name = scope.name) (s : ScopeStack) :
    ((s.changeIn kind f).toOption.getD s).scopes =
      s.scopes.modify (s.scopes.findIdx (·.kind = kind)) f := by
  induction s using induction with
  | base e =>
      rw [changeIn, changeFirst, scopes_base]
      by_cases hk : kind = .global
      · have hbottom : (⟨.global, "global", (f ⟨.global, "global", e⟩).entries⟩ : Scope) =
            f ⟨.global, "global", e⟩ := by
          obtain ⟨hkind, hname⟩ := hf ⟨.global, "global", e⟩
          rw [Scope.mk.injEq]
          exact ⟨hkind.symm, hname.symm, rfl⟩
        simpa [hk, Except.toOption, scopes_base, bottom] using hbottom
      · simp [hk, Except.toOption, scopes_base, List.findIdx_cons, Ne.symm hk]
  | under top s ih =>
      rw [changeIn_under, scopes_under, List.findIdx_cons]
      by_cases hk : top.kind = kind
      · simp [hk, Except.toOption]
      · simp only [hk, if_false, decide_false, cond_false, List.modify_succ_cons, ← ih]
        cases s.changeIn kind f <;> rfl

theorem scopes_of_pop_eq (h : kind ≠ .global) {p : List Scope × ScopeStack}
    (hpop : s.pop kind = .ok p) :
    p.2.scopes = (s.scopes.dropWhile (·.kind ≠ kind)).tail := by
  induction s using induction generalizing p with
  | base e => simp [pop, h, cutAfter?] at hpop
  | under top s ih =>
      rw [pop_under h] at hpop
      rw [scopes_under, List.dropWhile_cons]
      by_cases hk : top.kind = kind
      · simp only [hk, if_true] at hpop
        cases hpop
        simp [hk]
      · simp only [hk, if_false] at hpop
        cases hs : s.pop kind with
        | error e => rw [hs] at hpop; cases hpop
        | ok q =>
            rw [hs] at hpop
            cases hpop
            simpa [hk] using ih hs

/-- Popping a kind drops the scopes up to and with the first one of it, if there is one. -/
theorem scopes_pop (h : kind ≠ .global) (s : ScopeStack) :
    (((s.pop kind).toOption.map Prod.snd).getD s).scopes =
      if ∃ scope ∈ s.scopes, scope.kind = kind then (s.scopes.dropWhile (·.kind ≠ kind)).tail
      else s.scopes := by
  cases hpop : s.pop kind with
  | error e =>
      have hnone : ¬ ∃ scope ∈ s.scopes, scope.kind = kind := by
        simpa using ((pop_eq_error_iff h).1 hpop).2
      rw [if_neg hnone]
      rfl
  | ok p =>
      have hsome : ∃ scope ∈ s.scopes, scope.kind = kind := by
        by_contra hnone
        rw [(pop_eq_error_iff h).2 ⟨rfl, by simpa using hnone⟩] at hpop
        cases hpop
      rw [if_pos hsome]
      exact scopes_of_pop_eq h hpop

end Bindery.ScopeStack
