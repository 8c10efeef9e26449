import Bindery.Proofs.Bindings

/-!
# Bindery — Proofs — Page scope

A stack with a page scope on top, outside of which no text stands under some key
(`ScopeStack.Paged`).  Setting keys keeps it so, in whatever scope they are set if they are others
than that key (`Paged.setIn`).  Popping scopes leaves outer ones only, where no text stands under
the key (`scopes_of_pop`), so pushing a new page scope makes it so again (`paged_push_page`).
-/

namespace Bindery

namespace ScopeStack

/-! ### Bindings of one key under a page scope -/

/-- A page scope is on top and binds each of its keys once; below it no text stands under a key. -/
structure Paged (key : String) (s : ScopeStack) : Prop where
  page : s.current.kind = .page
  once : (s.current.entries.map Prod.fst).Nodup
  outer : ∀ scope ∈ s.scopes.tail, ∀ v, (key, v) ∈ scope.entries → v = ""

variable {key : String} {s t : ScopeStack}

/-- A page scope on top has been pushed. -/
theorem Paged.pushed (h : s.Paged key) :
    ∃ rest, s.pushed = s.current :: rest ∧ s.scopes.tail = rest ++ [s.bottom] := by
  have hpage := h.page
  obtain ⟨pushed, base⟩ := s
  cases pushed with
  | nil => cases hpage
  | cons top rest => exact ⟨rest, rfl, rfl⟩

theorem Paged.set (h : s.Paged key) (other value : String) : (s.set other value).Paged key where
  page := by rw [current_set]; exact h.page
  once := by rw [current_set]; exact Entries.nodup_put other value h.once
  outer := by rw [tail_scopes_set]; exact h.outer

theorem paged_push_page {name : String}
    (h : ∀ scope ∈ s.scopes, ∀ v, (key, v) ∈ scope.entries → v = "") :
    (s.push .page name).Paged key where
  page := rfl
  once := List.nodup_nil
  outer := h

/-- Setting another key in a scope leaves what stands under a key there. -/
theorem mem_scope_set {scope : Scope} {other value v : String} (h : other ≠ key) :
    (key, v) ∈ (scope.set other value).entries ↔ (key, v) ∈ scope.entries := by
  show (key, v) ∈ scope.entries.put other value ↔ _
  rw [Entries.mem_put_iff]
  simp [h.symm]

theorem mem_set_current {other value v : String} (h : other ≠ key) :
    (key, v) ∈ (s.set other value).current.entries ↔ (key, v) ∈ s.current.entries := by
  rw [current_set, mem_scope_set h]

/-- What the innermost scope binds once is found. -/
theorem find?_of_mem_current (h : s.Paged key) {v : String} (hv : (key, v) ∈ s.current.entries) :
    s.find? key = some v := find?_of_current (Entries.find?_of_mem h.once hv)

/-- A text in any scope of the stack stands in the innermost. -/
theorem mem_current_of_mem_entries (h : s.Paged key) {v : String} (hv : (key, v) ∈ s.entries)
    (hne : v ≠ "") : (key, v) ∈ s.current.entries := by
  rcases mem_entries_iff.1 hv with hv | ⟨scope, hscope, hv⟩
  · exact hv
  · exact absurd (h.outer scope hscope v hv) hne

/-! ### Scopes that come and go -/

theorem cutAfter?_cons {kind : ScopeKind} {top : Scope} {rest popped left : List Scope}
    (h : cutAfter? kind (top :: rest) = some (popped, left)) : ∃ gone, rest = gone ++ left := by
  induction rest generalizing top popped with
  | nil =>
      by_cases hk : top.kind = kind
      · simp only [cutAfter?, hk, if_true, Option.some.injEq, Prod.mk.injEq] at h
        exact ⟨[], h.2⟩
      · simp [cutAfter?, hk] at h
  | cons next rest ih =>
      by_cases hk : top.kind = kind
      · simp only [cutAfter?, hk, if_true, Option.some.injEq, Prod.mk.injEq] at h
        exact ⟨[], h.2⟩
      · rw [cutAfter?, if_neg hk, Option.map_eq_some_iff] at h
        obtain ⟨⟨a, b⟩, hcut, heq⟩ := h
        cases heq
        obtain ⟨gone, rfl⟩ := ih hcut
        exact ⟨next :: gone, rfl⟩

/-- Popping a scope leaves outer scopes only. -/
theorem scopes_of_pop (h : s.Paged key) {kind : ScopeKind} {popped : List Scope}
    (hpop : s.pop kind = .ok (popped, t)) : ∀ scope ∈ t.scopes, scope ∈ s.scopes.tail := by
  obtain ⟨rest, hpushed, htail⟩ := h.pushed
  unfold pop at hpop
  split at hpop
  · cases hpop
  · split at hpop
    next popped' left hcut =>
      cases hpop
      rw [hpushed] at hcut
      obtain ⟨gone, rfl⟩ := cutAfter?_cons hcut
      intro scope hscope
      rw [htail, List.append_assoc]
      exact List.mem_append_right _ hscope
    · cases hpop

/-- The page scope on top can be popped. -/
theorem Paged.pop_page (h : s.Paged key) : ∃ popped t, s.pop .page = .ok (popped, t) := by
  obtain ⟨rest, hpushed, -⟩ := h.pushed
  refine ⟨[s.current], { s with pushed := rest }, ?_⟩
  rw [pop, if_neg (by decide), hpushed]
  simp [cutAfter?, h.page]

theorem changeFirst_scope {kind : ScopeKind} {f : Scope → Scope} {l l' : List Scope}
    (h : changeFirst kind f l = some l') :
    ∀ scope ∈ l', ∃ old ∈ l, scope = old ∨ scope = f old := by
  induction l generalizing l' with
  | nil => cases h
  | cons top rest ih =>
      by_cases hk : top.kind = kind
      · simp only [changeFirst, hk, if_true, Option.some.injEq] at h
        subst h
        refine List.forall_mem_cons.2 ⟨⟨top, List.mem_cons_self, .inr rfl⟩, fun scope hscope => ?_⟩
        exact ⟨scope, .tail _ hscope, .inl rfl⟩
      · simp only [changeFirst, hk, if_false, Option.map_eq_some_iff] at h
        obtain ⟨rest', hrest, rfl⟩ := h
        refine List.forall_mem_cons.2 ⟨⟨top, List.mem_cons_self, .inl rfl⟩, fun scope hscope => ?_⟩
        obtain ⟨old, hold, hscope⟩ := ih hrest scope hscope
        exact ⟨old, .tail _ hold, hscope⟩

/-- Setting a key in the innermost scope of a kind sets it in one scope at most. -/
theorem setIn_scopes (h : s.Paged key) {kind : ScopeKind} {other value : String}
    (hset : s.setIn kind other value = .ok t) :
    (t.current = s.current ∨ t.current = s.current.set other value) ∧
      ∀ scope ∈ t.scopes.tail, ∃ old ∈ s.scopes.tail,
        scope = old ∨ scope = old.set other value := by
  obtain ⟨rest, hpushed, htail⟩ := h.pushed
  unfold setIn changeIn at hset
  rw [hpushed] at hset
  rw [htail]
  by_cases hk : s.current.kind = kind
  · rw [changeFirst, if_pos hk] at hset
    cases hset
    exact ⟨.inr rfl, fun scope hscope => ⟨scope, hscope, .inl rfl⟩⟩
  · rw [changeFirst, if_neg hk] at hset
    cases hrest : changeFirst kind (Scope.set other value) rest with
    | some rest' =>
        rw [hrest] at hset
        cases hset
        refine ⟨.inl rfl, fun scope hscope => ?_⟩
        rcases List.mem_append.1 hscope with hscope | hscope
        · obtain ⟨old, hold, hscope⟩ := changeFirst_scope hrest scope hscope
          exact ⟨old, List.mem_append_left _ hold, hscope⟩
        · exact ⟨scope, List.mem_append_right _ hscope, .inl rfl⟩
    | none =>
        rw [hrest] at hset
        simp only [Option.map_none] at hset
        split at hset
        · -- no pushed scope is global, so the key is set in the bottom one
          cases hset
          refine ⟨.inl rfl, fun scope hscope => ?_⟩
          rcases List.mem_append.1 hscope with hscope | hscope
          · exact ⟨scope, List.mem_append_left _ hscope, .inl rfl⟩
          · exact ⟨s.bottom, by simp, .inr (List.mem_singleton.1 hscope)⟩
        · cases hset

/-- Setting another key in any scope leaves what stands under a key. -/
theorem Paged.setIn (h : s.Paged key) {kind : ScopeKind} {other value : String} (hkey : other ≠ key)
    (hset : s.setIn kind other value = .ok t) :
    t.Paged key ∧ ∀ v, (key, v) ∈ t.current.entries → (key, v) ∈ s.current.entries := by
  obtain ⟨hcur, htail⟩ := setIn_scopes h hset
  have outer : ∀ scope ∈ t.scopes.tail, ∀ v, (key, v) ∈ scope.entries → v = "" := by
    intro scope hscope v hv
    obtain ⟨old, hold, rfl | rfl⟩ := htail scope hscope
    · exact h.outer _ hold v hv
    · exact h.outer _ hold v ((mem_scope_set hkey).1 hv)
  rcases hcur with hcur | hcur
  · refine ⟨⟨by rw [hcur]; exact h.page, by rw [hcur]; exact h.once, outer⟩, fun v hv => ?_⟩
    rwa [hcur] at hv
  · refine ⟨⟨by rw [hcur]; exact h.page, ?_, outer⟩, fun v hv => ?_⟩
    · rw [hcur]
      exact Entries.nodup_put other value h.once
    · rw [hcur] at hv
      exact (mem_scope_set hkey).1 hv

end ScopeStack

end Bindery
