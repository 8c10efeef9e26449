import Bindery.Proofs.Stacking

/-!
# Bindery — Proofs — Popping

Popping cuts a stack in two and loses nothing.  The scopes that are popped for a kind end with one
of that kind and have no other (`UpTo`), and on top of the stack that is left they make the old
one (`of_pop_eq_ok`).  What a stack refuses is a matter of the kinds of its scopes alone
(`Refuses.cause`), and it leaves the stack as it is.
-/

namespace Bindery.ScopeStack

variable {kind : ScopeKind} {s t : ScopeStack} {popped : List Scope}

/-! ### Cutting a stack -/

/-- Of some scopes the last is of a kind, and no other is. -/
inductive UpTo (kind : ScopeKind) : List Scope → Prop where
  | last {scope : Scope} (h : scope.kind = kind) : UpTo kind [scope]
  | inner {scope : Scope} {rest : List Scope} (h : scope.kind ≠ kind) (hrest : UpTo kind rest) :
      UpTo kind (scope :: rest)

/-- The scopes that are popped and those that are left are all scopes there were. -/
theorem of_pop_eq_ok (hkind : kind ≠ .global) (h : s.pop kind = .ok (popped, t)) :
    popped ++ t.scopes = s.scopes ∧ UpTo kind popped := by
  induction s using induction generalizing popped with
  | base e => simp [pop, hkind, cutAfter?] at h
  | under top s ih =>
      rw [pop_under hkind] at h
      by_cases hk : top.kind = kind
      · rw [if_pos hk] at h
        cases h
        exact ⟨rfl, .last hk⟩
      · rw [if_neg hk] at h
        cases hs : s.pop kind with
        | error e => rw [hs] at h; cases h
        | ok p =>
            rw [hs] at h
            cases h
            obtain ⟨hscopes, hupTo⟩ := ih hs
            exact ⟨congrArg (top :: ·) hscopes, .inner hk hupTo⟩

theorem pop_global (s : ScopeStack) : s.pop .global = .error .globalScope := if_pos rfl

/-- A kind can be popped if it is not the global one and there is a scope of it. -/
theorem exists_pop_iff : (∃ p, s.pop kind = .ok p) ↔
    kind ≠ .global ∧ ∃ scope ∈ s.scopes, scope.kind = kind := by
  by_cases hkind : kind = .global
  · subst hkind
    simp [pop_global]
  · cases hpop : s.pop kind with
    | error e =>
        have hnone := ((pop_eq_error_iff hkind).1 hpop).2
        simp only [reduceCtorEq, exists_false, false_iff, not_and]
        rintro - ⟨scope, hscope, hk⟩
        exact hnone scope hscope hk
    | ok p =>
        simp only [Except.ok.injEq, exists_eq', true_iff]
        refine ⟨hkind, ?_⟩
        by_contra hnone
        rw [(pop_eq_error_iff hkind).2 ⟨rfl, by simpa using hnone⟩] at hpop
        cases hpop

/-! ### Refusals -/

/-- A scope of a kind cannot be changed exactly if there is none. -/
theorem changeIn_eq_error_iff {f : Scope → Scope} {e : ScopeFault} :
    s.changeIn kind f = .error e ↔
      e = .noSuchScope kind ∧ ∀ scope ∈ s.scopes, scope.kind ≠ kind := by
  induction s using induction with
  | base entries =>
      rw [changeIn, changeFirst, scopes_base, List.forall_mem_singleton]
      by_cases hk : kind = .global
      · simp [hk]
      · simp [hk, Ne.symm hk, eq_comm]
  | under top s ih =>
      rw [changeIn_under, scopes_under, List.forall_mem_cons]
      by_cases hk : top.kind = kind
      · simp [hk]
      · simp only [hk, if_false, ne_eq, not_false_eq_true, true_and, ← ih]
        cases s.changeIn kind f <;> simp [Except.map]

/-- The kind of scope that a change is meant for. -/
def Change.kind? : Change → Option ScopeKind
  | .set .. | .push .. => none
  | .setIn kind .. | .pop kind | .reset kind => some kind

/-- A stack refuses a change, and says why. -/
inductive Refuses (s : ScopeStack) : Change → ScopeFault → Prop where
  | setIn {kind : ScopeKind} {key value : String} {e : ScopeFault}
      (h : s.setIn kind key value = .error e) : Refuses s (.setIn kind key value) e
  | pop {kind : ScopeKind} {e : ScopeFault} (h : s.pop kind = .error e) : Refuses s (.pop kind) e
  | reset {kind : ScopeKind} {e : ScopeFault} (h : s.reset kind = .error e) :
      Refuses s (.reset kind) e

variable {c : Change} {e : ScopeFault}

theorem Refuses.change_eq (h : s.Refuses c e) : s.change c = s := by
  cases h with
  | setIn h => rw [change, h]; rfl
  | pop h => rw [change, h]; rfl
  | reset h => rw [change, h]; rfl

/-- A change is refused for the lack of a scope of its kind, the popping of a global one aside. -/
theorem Refuses.cause (h : s.Refuses c e) :
    (c = .pop .global ∧ e = .globalScope) ∨
      ∃ kind, c.kind? = some kind ∧ e = .noSuchScope kind ∧
        ∀ scope ∈ s.scopes, scope.kind ≠ kind := by
  cases h with
  | setIn h => exact .inr ⟨_, rfl, changeIn_eq_error_iff.1 h⟩
  | reset h => exact .inr ⟨_, rfl, changeIn_eq_error_iff.1 h⟩
  | @pop kind _ h =>
      by_cases hkind : kind = .global
      · subst hkind
        rw [pop_global] at h
        cases h
        exact .inl ⟨rfl, rfl⟩
      · exact .inr ⟨_, rfl, (pop_eq_error_iff hkind).1 h⟩

/-! ### Pushing and popping -/

/-- The changes that bind keys one after the other. -/
def binding (bound : Entries) : List Change := bound.map fun p => .set p.1 p.2

/-- Keys are bound in the scope on top, whose kind stays. -/
theorem run_binding_under (top : Scope) (s : ScopeStack) (bound : Entries) :
    ∃ scope : Scope, scope.kind = top.kind ∧ (s.under top).run (binding bound) = s.under scope := by
  induction bound generalizing top with
  | nil => exact ⟨top, rfl, rfl⟩
  | cons p rest ih => exact ih (top.set p.1 p.2)

/-- **Popping partitions a stack.**  A kind other than the global one can be popped if there is a
scope of it.  Then the scopes that are popped, the innermost first, and those that are left are the
scopes there were, with all of their bindings; the last one popped is of the kind, and no other is.
A change that is refused leaves the stack as it is, and is refused for the lack of a scope of its
kind, or as the global scope is not popped.  So whatever is bound in a scope that was pushed,
popping its kind brings back the stack from before. -/
theorem pop_partitions (s : ScopeStack) (kind : ScopeKind) :
    ((∃ p, s.pop kind = .ok p) ↔ kind ≠ .global ∧ ∃ scope ∈ s.scopes, scope.kind = kind) ∧
      (∀ popped t, s.pop kind = .ok (popped, t) →
        popped ++ t.scopes = s.scopes ∧ UpTo kind popped) ∧
      (∀ c e, s.Refuses c e → s.change c = s ∧
        ((c = .pop .global ∧ e = .globalScope) ∨ ∃ kind, c.kind? = some kind ∧
          e = .noSuchScope kind ∧ ∀ scope ∈ s.scopes, scope.kind ≠ kind)) ∧
      (kind ≠ .global → ∀ name bound, ∃ scope,
        ((s.push kind name).run (binding bound)).pop kind = .ok ([scope], s)) := by
  refine ⟨exists_pop_iff, fun popped t h => ?_, fun c e h => ⟨h.change_eq, h.cause⟩, ?_⟩
  · exact of_pop_eq_ok (exists_pop_iff.1 ⟨_, h⟩).1 h
  · intro hkind name bound
    obtain ⟨scope, hscope, hrun⟩ := run_binding_under (.fresh kind name) s bound
    refine ⟨scope, ?_⟩
    show (((s.under (.fresh kind name)).run (binding bound)).pop kind) = _
    rw [hrun]
    exact pop_under_of_eq hkind hscope s

/-- A page scope and a second global one on the scope of a feature, which stands on another page. -/
def tower : ScopeStack :=
  ⟨[⟨.page, "page", [("note/text", "draft")]⟩, ⟨.global, "more", [("user", "guest")]⟩,
    ⟨.feature, "login", [("user", "admin")]⟩, ⟨.page, "page", [("topic", "tea")]⟩],
    [("language", "en")]⟩

/-- Three scopes go with the feature of the tower, and the tower stands again after another feature
on top of it was pushed and popped.  Its second global scope is not popped either. -/
theorem tower_popped :
    tower.pop .feature = .ok (tower.pushed.take 3,
        ⟨[⟨.page, "page", [("topic", "tea")]⟩], [("language", "en")]⟩) ∧
      tower.pushed.take 3 ++
        (⟨[⟨.page, "page", [("topic", "tea")]⟩], [("language", "en")]⟩ : ScopeStack).scopes =
        tower.scopes ∧
      UpTo .feature (tower.pushed.take 3) ∧
      tower.Refuses (.pop .global) .globalScope ∧ tower.change (.pop .global) = tower ∧
      ∃ scope, ((tower.push .feature "detail").run
        (binding [("user", "root"), ("note/text", "")])).pop .feature = .ok ([scope], tower) := by
  have hpop : tower.pop .feature = .ok (tower.pushed.take 3,
      ⟨[⟨.page, "page", [("topic", "tea")]⟩], [("language", "en")]⟩) := rfl
  have hrefused : tower.Refuses (.pop .global) .globalScope := .pop (pop_global _)
  obtain ⟨-, hcut, hrefuses, hback⟩ := pop_partitions tower .feature
  exact ⟨hpop, (hcut _ _ hpop).1, (hcut _ _ hpop).2, hrefused, (hrefuses _ _ hrefused).1,
    hback (by decide) "detail" _⟩

end Bindery.ScopeStack
