import Bindery.Proofs.Operations
import Bindery.Proofs.Stacking
import Bindery.Proofs.Turns
import Mathlib.Data.List.Induction
import Mathlib.Data.List.Infix

/-!
# Bindery — Proofs — Features

A session keeps a page scope on top of its scopes.  What its turns do to the scopes below are
changes of a stack of a few kinds only: a key is set in the innermost scope of another kind, a
feature scope is pushed, or scopes are popped up to one (`onPage_after`).  So what becomes of the
scopes below a feature that was begun is a matter of stacks: as long as no more features were ended
than begun, feature scopes stand on what was there before, one for each feature that is open
(`ScopeStack.Nested`), and what was there before is reached by bindings in the global scope only
(`nested_after`).
-/

namespace Bindery

namespace ScopeStack

/-! ### Feature scopes on a stack -/

/-- A feature scope of a name stands on an outer stack, and so many feature scopes stand on it. -/
inductive Nested (name : String) (outer : ScopeStack) : Nat → ScopeStack → Prop where
  | first {feature : Scope} (hkind : feature.kind = .feature) (hname : feature.name = name) :
      Nested name outer 0 (outer.under feature)
  | inner {feature : Scope} {n : Nat} {s : ScopeStack} (hkind : feature.kind = .feature)
      (h : Nested name outer n s) : Nested name outer (n + 1) (s.under feature)

namespace Nested

variable {name : String} {outer s : ScopeStack} {n : Nat}

/-- No feature scope keeps a binding from the global scope. -/
theorem setIn_global (h : Nested name outer n s) (key value : String) :
    Nested name (outer.change (.setIn .global key value)) n
      (s.change (.setIn .global key value)) := by
  induction h with
  | first hkind hname =>
      rw [change_setIn_under_of_ne (by simp [hkind])]
      exact .first hkind hname
  | inner hkind _ ih =>
      rw [change_setIn_under_of_ne (by simp [hkind])]
      exact .inner hkind ih

/-- The innermost feature scope is one of those on the outer stack. -/
theorem setIn_feature (h : Nested name outer n s) (key value : String) :
    Nested name outer n (s.change (.setIn .feature key value)) := by
  cases h with
  | first hkind hname =>
      rw [change_setIn_under_of_eq hkind]
      exact .first hkind hname
  | inner hkind h =>
      rw [change_setIn_under_of_eq hkind]
      exact .inner hkind h

theorem push (h : Nested name outer n s) (other : String) :
    Nested name outer (n + 1) (s.push .feature other) := .inner rfl h

/-- The feature that was begun last is ended first. -/
theorem pop (h : Nested name outer (n + 1) s) :
    ∃ popped t, s.pop .feature = .ok (popped, t) ∧ Nested name outer n t := by
  cases h with
  | inner hkind h => exact ⟨_, _, pop_under_of_eq (by decide) hkind _, h⟩

theorem pop_first (h : Nested name outer 0 s) :
    ∃ popped, s.pop .feature = .ok (popped, outer) := by
  cases h with
  | first hkind _ => exact ⟨_, pop_under_of_eq (by decide) hkind _⟩

end Nested

end ScopeStack

namespace Session

open ScopeStack (Change Nested)

variable {x : Session} {below : ScopeStack} {s : State}

/-! ### A page scope on top -/

/-- A page scope is on top, and the scopes below it are a given stack. -/
def OnPage (below : ScopeStack) (s : State) : Prop :=
  ∃ page : Scope, page.kind = .page ∧ s.store = below.under page

theorem exists_onPage_iff : (∃ below, OnPage below s) ↔ s.store.current.kind = .page := by
  constructor
  · rintro ⟨below, page, hpage, hs⟩
    rw [hs]
    exact hpage
  · intro h
    obtain ⟨below, hs⟩ := ScopeStack.exists_under (s := s.store) (by rw [h]; decide)
    exact ⟨below, _, h, hs⟩

theorem onPage_push (below : ScopeStack) (s : State) :
    OnPage below { s with store := below.push .page pageName } := ⟨_, rfl, rfl⟩

theorem OnPage.set (h : OnPage below s) (key value : String) :
    OnPage below { s with store := s.store.set key value } := by
  obtain ⟨page, hpage, hs⟩ := h
  exact ⟨page.set key value, hpage, by rw [hs]; rfl⟩

theorem OnPage.forgetLiveText (h : OnPage below s) : OnPage below s.forgetLiveText :=
  Resolver.foldl_forget (P := fun store => OnPage below { s with store })
    (fun _ key value h => h.set key value) s.liveReads h

theorem emptyPage_under {page : Scope} (h : page.kind = .page) (below : ScopeStack) :
    emptyPage (below.under page) = below.under page.clear := by
  rw [emptyPage, ScopeStack.reset, ScopeStack.changeIn_under, if_pos h]

theorem OnPage.emptyPage (h : OnPage below s) :
    OnPage below { s with store := Session.emptyPage s.store } := by
  obtain ⟨page, hpage, hs⟩ := h
  refine ⟨page.clear, hpage, ?_⟩
  rw [← emptyPage_under hpage, ← hs]

/-- Whatever is looked up, bound or forgotten, the scopes below the page scope stay. -/
theorem admits_onPage (x : Session) (below : ScopeStack) :
    x.Admits (fun _ => True) (fun _ => True) (.keeping (OnPage below)) := by
  refine admits_of_set (P := fun store => ∃ page : Scope, page.kind = .page ∧
    store = below.under page) ?_
  rintro _ key value ⟨page, hpage, rfl⟩
  exact ⟨page.set key value, hpage, rfl⟩

theorem within_onPage_resetPage : Act.Within (.keeping (OnPage below)) resetPage :=
  .modify fun _ h => h.forgetLiveText.emptyPage

/-! ### The scopes below -/

/-- What a turn does to the scopes below the page scope. -/
def Turn.changes : Turn → List Change
  | .perform (.bindIn kind key value) => if kind = .page then [] else [.setIn kind key value]
  | .perform (.beginFeature name) => [.push .feature name]
  | .perform .endFeature => [.pop .feature]
  | _ => []

theorem onPage_bindIn (h : OnPage below s) (kind : ScopeKind) (key value : String) :
    OnPage (below.run (Turn.changes (.perform (.bindIn kind key value))))
      (x.perform (.bindIn kind key value) s).2 := by
  obtain ⟨page, hpage, hs⟩ := h
  show OnPage _ (quietly (rebinding fun s => s.setIn kind key value) s).2
  rw [quietly_run, rebinding_run, hs, ScopeStack.setIn, ScopeStack.changeIn_under, Turn.changes]
  by_cases hk : kind = .page
  · rw [if_pos (hpage.trans hk.symm), if_pos hk]
    exact ⟨page.set key value, hpage, rfl⟩
  · have hne : page.kind ≠ kind := fun h => hk (h.symm.trans hpage)
    rw [if_neg hne, if_neg hk]
    show OnPage (below.change (.setIn kind key value)) _
    rw [ScopeStack.change, ScopeStack.setIn]
    cases below.changeIn kind (Scope.set key value) with
    | error e => exact ⟨page, hpage, hs⟩
    | ok below' => exact ⟨page, hpage, rfl⟩

theorem onPage_beginFeature (h : OnPage below s) (name : String) :
    OnPage (below.push .feature name) (x.perform (.beginFeature name) s).2 := by
  obtain ⟨page, hpage, hs⟩ := h
  show OnPage _ (quietly (rebinding fun s => .ok (beginFeature name s)) s).2
  rw [quietly_run, rebinding_run, hs, beginFeature,
    ScopeStack.pop_under_of_eq (by decide) hpage]
  exact onPage_push _ s

/-- A feature is ended if there is a feature scope, and nothing happens if there is none. -/
theorem perform_endFeature (h : OnPage below s) :
    x.perform .endFeature s = match below.pop .feature with
      | .ok (_, t) => (.ok .nothing, { s with store := t.push .page pageName })
      | .error e => (.error (.scope e), s) := by
  obtain ⟨page, hpage, hs⟩ := h
  show quietly (rebinding endFeature) s = _
  rw [quietly_run, rebinding_run, hs, endFeature, ScopeStack.pop_under (by decide), if_neg]
  · cases below.pop .feature <;> rfl
  · rw [hpage]
    decide

theorem onPage_endFeature (h : OnPage below s) :
    OnPage (below.change (.pop .feature)) (x.perform .endFeature s).2 := by
  rw [perform_endFeature h, ScopeStack.change]
  cases below.pop .feature with
  | error e => exact h
  | ok p => exact onPage_push p.2 s

/-- A turn keeps the page scope on top and changes the scopes below as it is to. -/
theorem onPage_take (h : OnPage below s) (turn : Turn) :
    OnPage (below.run turn.changes) (x.take s turn) := by
  cases turn with
  | outside change => exact h
  | perform op =>
      by_cases hop : op.Rescopes
      · cases op with
        | bindIn kind key value => exact onPage_bindIn h kind key value
        | beginFeature name => exact onPage_beginFeature h name
        | endFeature => exact onPage_endFeature h
        | resetPage => exact (within_quietly within_onPage_resetPage).keeps h rfl
        | navigate url =>
            exact ((admits_onPage x below).within_navigate within_onPage_resetPage url).keeps h rfl
        | _ => cases hop
      · have hnone : Turn.changes (.perform op) = [] := by
          cases op <;> first | rfl | exact absurd trivial hop
        rw [hnone]
        have hkept := (admits_onPage x below).within_perform hop (fun _ _ => trivial)
          fun _ _ => trivial
        exact hkept.keeps h rfl

theorem onPage_after (h : OnPage below s) (turns : List Turn) :
    OnPage (below.run (turns.flatMap Turn.changes)) (x.after turns s) := by
  induction turns generalizing below s with
  | nil => exact h
  | cons turn turns ih =>
      rw [List.flatMap_cons, ScopeStack.run_append, after_cons]
      exact ih (onPage_take h turn)

/-- A session begins with a page scope on top. -/
theorem exists_onPage_begin (initial : ScopeStack) (w : World) :
    ∃ below, OnPage below (begin initial w) := by
  rw [exists_onPage_iff]
  show (withPage initial).current.kind = .page
  unfold withPage
  split
  · assumption
  · rfl

/-! ### Features that are open -/

/-- Whether a turn begins a feature. -/
def Turn.begins : Turn → Bool
  | .perform (.beginFeature _) => true
  | _ => false

/-- Whether a turn ends a feature, or tries to. -/
def Turn.ends : Turn → Bool
  | .perform .endFeature => true
  | _ => false

/-- The bindings that a turn makes in the global scope. -/
def Turn.globally : Turn → List Change
  | .perform (.bindIn .global key value) => [.setIn .global key value]
  | _ => []

/-- At no time have more features been ended than begun. -/
def Balanced (turns : List Turn) : Prop :=
  ∀ before, before <+: turns → before.countP Turn.ends ≤ before.countP Turn.begins

instance : DecidablePred Balanced := fun turns =>
  decidable_of_iff
    (∀ before ∈ turns.inits, before.countP Turn.ends ≤ before.countP Turn.begins)
    (by simp only [List.mem_inits]; rfl)

/-- How many of the features that were begun are still open. -/
def openFeatures (turns : List Turn) : Nat :=
  turns.countP Turn.begins - turns.countP Turn.ends

variable {name : String} {outer : ScopeStack} {n : Nat} {turns : List Turn}

theorem Turn.begins_of_ends {turn : Turn} (h : turn.ends = true) : turn.begins = false := by
  cases turn with
  | outside change => rfl
  | perform op => cases op <;> first | rfl | cases h

theorem nested_turn (h : Nested name outer n below) {turn : Turn} (hends : turn.ends → 0 < n) :
    Nested name (outer.run turn.globally) (n + turn.begins.toNat - turn.ends.toNat)
      (below.run turn.changes) := by
  cases turn with
  | outside change => exact h
  | perform op =>
      cases op with
      | bindIn kind key value =>
          cases kind with
          | global => exact h.setIn_global key value
          | feature => exact h.setIn_feature key value
          | page => exact h
      | beginFeature other => exact h.push other
      | endFeature =>
          obtain ⟨m, rfl⟩ := Nat.exists_eq_succ_of_ne_zero (Nat.ne_of_gt (hends rfl))
          obtain ⟨popped, t, hpop, ht⟩ := h.pop
          show Nested name outer m (below.change (.pop .feature))
          rw [ScopeStack.change, hpop]
          exact ht
      | _ => exact h

/-- After a balanced run the features that are open are nested in the one that was begun before. -/
theorem nested_after (h : Nested name outer 0 below) (hturns : Balanced turns) :
    Nested name (outer.run (turns.flatMap Turn.globally)) (openFeatures turns)
      (below.run (turns.flatMap Turn.changes)) := by
  induction turns using List.reverseRecOn with
  | nil => exact h
  | append_singleton before turn ih =>
      have hbefore := ih fun first hfirst => hturns first (hfirst.trans (List.prefix_append _ _))
      have hcount := hturns _ (List.prefix_refl _)
      have hle := hturns before (List.prefix_append _ _)
      rw [List.countP_append, List.countP_append, List.countP_singleton,
        List.countP_singleton] at hcount
      have hends : turn.ends → 0 < openFeatures before := by
        intro he
        simp only [he, Turn.begins_of_ends he, if_true, Bool.false_eq_true, if_false] at hcount
        unfold openFeatures
        omega
      have hopen : openFeatures (before ++ [turn]) =
          openFeatures before + turn.begins.toNat - turn.ends.toNat := by
        unfold openFeatures
        rw [List.countP_append, List.countP_append, List.countP_singleton, List.countP_singleton]
        cases hb : turn.begins <;> cases he : turn.ends <;> simp <;> omega
      rw [hopen, List.flatMap_append, List.flatMap_append, List.flatMap_singleton,
        List.flatMap_singleton, ScopeStack.run_append, ScopeStack.run_append]
      exact nested_turn hbefore hends

/-- A page scope is on top, and below it, on the scopes of an outer stack, are those of a feature of
a name and of so many features in it. -/
def InFeature (name : String) (outer : ScopeStack) (n : Nat) (s : State) : Prop :=
  ∃ below, OnPage below s ∧ Nested name outer n below

theorem inFeature_after (h : OnPage outer s) (name : String) (hturns : Balanced turns) :
    InFeature name (outer.run (turns.flatMap Turn.globally)) (openFeatures turns)
      (x.after (.perform (.beginFeature name) :: turns) s) :=
  ⟨_, onPage_after (onPage_beginFeature h name) turns, nested_after (.first rfl rfl) hturns⟩

theorem InFeature.endFeature (h : InFeature name outer (n + 1) s) :
    (x.perform .endFeature s).1 = .ok .nothing ∧
      InFeature name outer n (x.perform .endFeature s).2 := by
  obtain ⟨below, hpage, hnested⟩ := h
  obtain ⟨popped, t, hpop, ht⟩ := hnested.pop
  rw [perform_endFeature hpage, hpop]
  exact ⟨rfl, t, onPage_push t s, ht⟩

theorem InFeature.end_first (h : InFeature name outer 0 s) :
    x.perform .endFeature s = (.ok .nothing, { s with store := outer.push .page pageName }) := by
  obtain ⟨below, hpage, hnested⟩ := h
  obtain ⟨popped, hpop⟩ := hnested.pop_first
  rw [perform_endFeature hpage, hpop]

theorem InFeature.ended (h : InFeature name outer n s) :
    (x.perform .endFeature s).1 = .ok .nothing := by
  cases n with
  | zero => rw [h.end_first]
  | succ n => exact h.endFeature.1

variable (x) in
/-- The features that are open are ended one by one, the innermost first. -/
theorem InFeature.endFeatures (h : InFeature name outer n s) {k : Nat} (hk : k ≤ n) :
    InFeature name outer (n - k) (x.after (List.replicate k (.perform .endFeature)) s) := by
  induction k with
  | zero => exact h
  | succ k ih =>
      have hlast := ih (Nat.le_of_succ_le hk)
      rw [show n - k = n - (k + 1) + 1 by omega] at hlast
      rw [List.replicate_succ', after_append]
      exact hlast.endFeature.2

/-! ### The lifecycle of scopes -/

/-- Only where there is no feature scope no feature can be ended, and then nothing happens. -/
theorem endFeature_fails_iff (s : State) :
    ((∃ e, (x.perform .endFeature s).1 = .error e) ↔
        ∀ scope ∈ s.store.scopes, scope.kind ≠ .feature) ∧
      ∀ e, (x.perform .endFeature s).1 = .error e →
        x.perform .endFeature s = (.error (.scope (.noSuchScope .feature)), s) := by
  have hrun : x.perform .endFeature s = quietly (rebinding Session.endFeature) s := rfl
  rw [hrun, quietly_run, rebinding_run, Session.endFeature]
  cases hpop : s.store.pop .feature with
  | error fault =>
      obtain ⟨rfl, hnone⟩ := (ScopeStack.pop_eq_error_iff (by decide)).1 hpop
      exact ⟨⟨fun _ => hnone, fun _ => ⟨_, rfl⟩⟩, fun _ _ => rfl⟩
  | ok p =>
      refine ⟨⟨fun ⟨e, he⟩ => (by cases he), fun hnone => ?_⟩, fun e he => (by cases he)⟩
      rw [(ScopeStack.pop_eq_error_iff (by decide)).2 ⟨rfl, hnone⟩] at hpop
      cases hpop

/-- **Scopes come and go in pairs.**  Whatever stack a session was given, and whatever happened
since it began, the global scope is at the bottom and a page scope is on top.  Take a page scope on
top of an outer stack, the beginning of a feature, and a run in which no more features are ended
than begun: then the features that are open can be ended one by one, and once that feature is ended
too, an empty page scope is on top of the outer stack, in which nothing has changed but for the
bindings that the run made in the global scope.  A feature cannot be ended exactly where there is no
feature scope, and then nothing happens. -/
theorem features_nest (x : Session) :
    (∀ (initial : ScopeStack) (w : World) (turns : List Turn),
      (x.after turns (begin initial w)).store.current.kind = .page ∧
        ∃ entries, (x.after turns (begin initial w)).store.scopes.getLast? =
          some ⟨.global, "global", entries⟩) ∧
    (∀ (outer : ScopeStack) (s : State) (name : String) (turns : List Turn),
      OnPage outer s → Balanced turns →
      (∀ k ≤ openFeatures turns,
        InFeature name (outer.run (turns.flatMap Turn.globally)) (openFeatures turns - k)
          (x.after (.perform (.beginFeature name) :: turns ++
            List.replicate k (.perform .endFeature)) s) ∧
        (x.perform .endFeature (x.after (.perform (.beginFeature name) :: turns ++
          List.replicate k (.perform .endFeature)) s)).1 = .ok .nothing) ∧
      (x.after (.perform (.beginFeature name) :: turns ++
        List.replicate (openFeatures turns + 1) (.perform .endFeature)) s).store =
          (outer.run (turns.flatMap Turn.globally)).push .page pageName) ∧
    ∀ s : State,
      ((∃ e, (x.perform .endFeature s).1 = .error e) ↔
        ∀ scope ∈ s.store.scopes, scope.kind ≠ .feature) ∧
      ∀ e, (x.perform .endFeature s).1 = .error e →
        x.perform .endFeature s = (.error (.scope (.noSuchScope .feature)), s) := by
  refine ⟨fun initial w turns => ⟨?_, (x.after turns (begin initial w)).store.base, ?_⟩,
    fun outer s name turns hs hturns => ?_, endFeature_fails_iff⟩
  · obtain ⟨below, hbegin⟩ := exists_onPage_begin initial w
    exact exists_onPage_iff.1 ⟨_, onPage_after hbegin turns⟩
  · rw [ScopeStack.scopes, List.getLast?_concat]
    rfl
  · have hbegun : InFeature name (outer.run (turns.flatMap Turn.globally)) (openFeatures turns)
        (x.after (.perform (.beginFeature name) :: turns) s) := inFeature_after hs name hturns
    constructor
    · intro k hk
      have hclosing := hbegun.endFeatures x hk
      rw [after_append]
      exact ⟨hclosing, hclosing.ended⟩
    · have hlast := hbegun.endFeatures x le_rfl
      rw [Nat.sub_self] at hlast
      rw [List.replicate_succ', ← List.append_assoc, after_append, after_append, after_cons,
        after_nil]
      show (x.perform .endFeature _).2.store = _
      rw [hlast.end_first]

/-- The scopes of a suite of features. -/
def suite : ScopeStack := ⟨[⟨.feature, "suite", [("language", "en")]⟩], []⟩

/-- What is done in one feature of the suite, in which another one is begun and not ended. -/
def suiteTurns : List Turn :=
  [.perform (.bindIn .global "seen" "yes"), .perform (.bind "note" "draft"),
    .perform (.bindIn .feature "user" "guest"), .perform (.beginFeature "detail"),
    .perform (.bindIn .feature "user" "admin"), .perform .resetPage]

/-- Once both are ended, the suite is as it was, with an empty page scope on top; what was bound in
the global scope stays. -/
theorem suite_after_features :
    OnPage suite (begin suite (.fresh .bare [])) ∧ Balanced suiteTurns ∧
      (standard.after (.perform (.beginFeature "login") :: suiteTurns ++
        List.replicate 2 (.perform .endFeature)) (begin suite (.fresh .bare []))).store =
        ⟨[.fresh .page "page", ⟨.feature, "suite", [("language", "en")]⟩], [("seen", "yes")]⟩ := by
  have hpage : OnPage suite (begin suite (.fresh .bare [])) := ⟨.fresh .page "page", rfl, rfl⟩
  have hturns : Balanced suiteTurns := by decide
  refine ⟨hpage, hturns, ?_⟩
  exact ((features_nest standard).2.1 suite _ "login" suiteTurns hpage hturns).2

end Session

end Bindery
