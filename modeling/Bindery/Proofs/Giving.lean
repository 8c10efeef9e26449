import Bindery.Proofs.Course
import Bindery.Proofs.Cycles
import Bindery.Proofs.DryRun
import Bindery.Proofs.Rounds

/-!
# Bindery — Proofs — Giving

How lookups go that give a value.  `Gives k q s v t` says that with room for `k` levels, what `q`
asks for is found to be `v`, and what happens on the way takes the state from `s` to `t`; there is
one rule for each way to come by a value.  Every lookup that gives a value goes like this
(`gives_of_levels`), so what is true of all of them is proved by induction on the rules.
-/

namespace Bindery

open Template (Segment)

/-! ### What is around the browser -/

namespace World

/-- The bounds of what leaves the files and variables alone. -/
def besideHost : Bounds World :=
  .ofRelation (fun w w' => w'.host = w.host) (fun _ => rfl) fun _ _ _ h₁ h₂ => h₂.trans h₁

variable {α : Type}

theorem within_besideHost_browse (a : Browser.Act α) : Act.Within besideHost (browse a) := by
  refine Act.Within.ofRelation_iff.2 fun w => ?_
  unfold browse
  rcases a w.browser with ⟨_ | _, _⟩ <;> rfl

end World

namespace Interactor

open World (besideHost within_besideHost_browse)
open Interaction

variable {α : Type} {l : Locator} {deed : ElementId → World.Act InteractionFault α}

/-- An interaction leaves the files alone if what is done with the element does. -/
theorem within_besideHost_withElement (i : Interactor) (action : Option String)
    (hdeed : ∀ id, (deed id).Within besideHost) :
    (i.withElement action l deed).Within besideHost := by
  refine within_withElement i action (within_besideHost_browse _)
    (fun _ => within_besideHost_browse _) ?_ fun _ _ => rfl
  exact .bind (within_locate (fun _ _ _ => within_besideHost_browse _)
    (fun _ => within_besideHost_browse _) (fun _ => within_besideHost_browse _) l) hdeed

theorem within_besideHost_readText (id : ElementId) : (readText id).Within besideHost := by
  unfold readText
  refine .bind (within_besideHost_browse _) fun text => .ite (.pure _) ?_
  exact .bind (within_besideHost_browse _) fun _ => .pure _

end Interactor

/-! ### Bindings and the templates in them -/

namespace BoundAttribute

/-- The expression of a lookup. -/
def expression : BoundAttribute → String
  | .xpath _ e _ | .regex _ e | .jsonPath _ e => e
  | _ => ""

/-- The target type of a lookup, if it has one. -/
def target : BoundAttribute → String
  | .xpath _ _ t => t
  | _ => ""

end BoundAttribute

namespace Resolver

/-! ### How a lookup gives a value -/

/-- What is looked up. -/
inductive Quest where
  | value (name : String)
  | reference (name : String)
  | template (segments : List Segment)
  | locator (element : String)

/-- The world is as it was, or an evaluator was asked for the value of a binding; only for that of a
process, to run one. -/
def Answered (r : Resolver Interactor) (b : BoundAttribute) (w w' : World) : Prop :=
  w' = w ∨ ∃ q, (∀ c, q = .process c → ∃ c', b = .process c') ∧
    w' = (Evaluators.consult r.evaluators q w).2

/-- With room for so many levels, what is looked up gives a value, and takes the state to another
one. -/
inductive Gives (r : Resolver Interactor) : Nat → Quest → State → String → State → Prop where
  | nil {k : Nat} {s : State} : Gives r k (.template []) s "" s
  | text {k : Nat} {rest : List Segment} {s t : State} {v : String} (a : String) :
      Gives r k (.template rest) s v t → Gives r k (.template (.text a :: rest)) s (a ++ v) t
  | placeholder {k : Nat} {name : String} {rest : List Segment} {s t : State} {v : String} :
      Template.isPlaceholder name = true → Gives r k (.template rest) s v t →
      Gives r k (.template (.reference name :: rest)) s ((Segment.reference name).write ++ v) t
  | fill {k : Nat} {name : String} {rest : List Segment} {s t u : State} {v x : String} :
      Template.isPlaceholder name = false → Gives r k (.reference (Text.trim name)) s v t →
      Gives r k (.template rest) t x u →
      Gives r k (.template (.reference name :: rest)) s (v ++ x) u
  | url {k : Nat} {s t : State} {address v : String} {w : World} :
      (r.dryRun = true → address = Template.placeholder Key.currentUrl) →
      w.host = s.world.host →
      Gives r k (.value Key.currentUrl)
        { s with store := s.store.set Key.currentUrl address, world := w } v t →
      Gives r k (.reference Key.currentUrl) s v t
  | name {k : Nat} {name v : String} {s t : State} :
      name ≠ Key.currentUrl → Gives r k (.value name) s v t → Gives r k (.reference name) s v t
  | literal {k : Nat} {name v : String} {s : State} :
      s.store.scan name = .ok (some (.literal v)) → Gives r (k + 1) (.value name) s v s
  | default {k : Nat} {name v : String} {s : State} :
      s.store.scan name = .ok none → r.defaults name = some v →
      Gives r (k + 1) (.value name) s v s
  | file {k : Nat} {name template path v : String} {s t : State} {w : World} :
      s.store.scan name = .ok (some (.file template)) →
      Gives r (k - 1) (.template (Template.parse template)) s path t →
      Evaluators.consult r.evaluators (.file path) t.world = (.ok v, w) →
      Gives r (k + 1) (.value name) s v { t with world := w }
  | answer {k : Nat} {name template x v : String} {s t : State} {w : World} {b : BoundAttribute} :
      s.store.scan name = .ok (some b) → b.template? = some template → (∀ p, b ≠ .file p) →
      Gives r (k - 1) (.template (Template.parse template)) s x t → r.Answered b t.world w →
      Gives r (k + 1) (.value name) s v { t with world := w }
  | lookup {k : Nat} {name source x y z word v : String} {s t u u' t' : State} {w : World}
      {b : BoundAttribute} :
      s.store.scan name = .ok (some b) → b.source? = some source →
      Gives r (k - 1) (.template (Template.parse source)) s x t →
      Gives r (k - 1) (.reference (Text.trim x)) t y u →
      Gives r (k - 1) (.template (Template.parse b.expression)) u z u' →
      Gives r (k - 1) (.template (Template.parse b.target)) u' word t' →
      (∀ s e t, b = .xpath s e t → ∃ type, TargetType.read word = .ok type) →
      r.Answered b t'.world w → Gives r (k + 1) (.value name) s v { t' with world := w }
  | heard {k : Nat} {name x v : String} {s t : State} {l : Locator} {w : World} :
      r.dryRun = false → s.store.scan name = .ok none → r.defaults name = none →
      Gives r k (.locator name) s x t → l.element = name → w.host = t.world.host →
      Gives r (k + 1) (.value name) s v (t.hearing l w v)
  | unheard {k : Nat} {name x : String} {s t : State} :
      r.dryRun = true → s.store.scan name = .ok none → r.defaults name = none →
      Gives r k (.locator name) s x t →
      Gives r (k + 1) (.value name) s (Template.placeholder name) t
  | alone {k : Nat} {element word template x : String} {strategy : Strategy} {s t : State} :
      s.store.findWord? (Key.locator element) = some word → Strategy.read word = .ok strategy →
      s.store.findWord? (Key.expression element word) = some template →
      Gives r (k - 1) (.template (Template.parse template)) s x t →
      t.store.findWord? (Key.container element word) = none →
      Gives r (k + 1) (.locator element) s x t
  | inside {k : Nat} {element word template container x y : String} {strategy : Strategy}
      {s t u : State} :
      s.store.findWord? (Key.locator element) = some word → Strategy.read word = .ok strategy →
      s.store.findWord? (Key.expression element word) = some template →
      Gives r (k - 1) (.template (Template.parse template)) s x t →
      t.store.findWord? (Key.container element word) = some container →
      r.dryRun = false → Gives r k (.locator container) t y u →
      Gives r (k + 1) (.locator element) s x u
  | insideDry {k : Nat} {element word template container around x : String} {strategy : Strategy}
      {s t : State} :
      s.store.findWord? (Key.locator element) = some word → Strategy.read word = .ok strategy →
      s.store.findWord? (Key.expression element word) = some template →
      Gives r (k - 1) (.template (Template.parse template)) s x t →
      t.store.findWord? (Key.container element word) = some container →
      r.dryRun = true → t.store.findWord? (Key.locator container) = some around →
      Gives r (k + 1) (.locator element) s x t

variable {r : Resolver Interactor} {k : Nat}

/-! ### Every lookup goes like this -/

theorem of_ask_ok {name v : String} {b : BoundAttribute} {q : Query} {s t : State}
    (hq : ∀ c, q = .process c → ∃ c', b = .process c')
    (h : r.ask name b.kind q s = (.ok v, t)) :
    ∃ w, r.Answered b s.world w ∧ t = { s with world := w } := by
  unfold ask at h
  split at h
  · cases h
    exact ⟨_, .inl rfl, rfl⟩
  · have h := Act.of_failingAs_ok h
    rw [State.inWorld_run] at h
    exact ⟨_, .inr ⟨q, hq, rfl⟩, (Prod.mk.inj h).2.symm⟩

theorem of_askFile_ok {name path v : String} {s t : State}
    (h : r.askFile name path s = (.ok v, t)) :
    ∃ w, Evaluators.consult r.evaluators (.file path) s.world = (.ok v, w) ∧
      t = { s with world := w } := by
  have h := Act.of_failingAs_ok h
  rw [State.inWorld_run] at h
  obtain ⟨hv, rfl⟩ := Prod.mk.inj h
  exact ⟨_, Prod.ext hv rfl, rfl⟩

theorem of_bindCurrentUrl_ok {s t : State} {u : Unit} (h : r.bindCurrentUrl s = (.ok u, t)) :
    ∃ address w, (r.dryRun = true → address = Template.placeholder Key.currentUrl) ∧
      w.host = s.world.host ∧
      t = { s with store := s.store.set Key.currentUrl address, world := w } := by
  unfold bindCurrentUrl at h
  obtain ⟨address, s₁, hurl, h⟩ := Act.of_bind_ok h
  unfold pageUrl at hurl
  split at hurl
  next =>
    cases hurl
    cases h
    exact ⟨_, s.world, fun _ => rfl, rfl, rfl⟩
  next hlive =>
    rw [State.inWorld_run] at hurl
    obtain ⟨-, rfl⟩ := Prod.mk.inj hurl
    cases h
    refine ⟨address, _, fun hdry => absurd hdry hlive, ?_, rfl⟩
    exact Act.Within.ofRelation_iff.1 (.failingAs _ (World.within_besideHost_browse _)) s.world

theorem gives_of_reference {value : String → Lookup String} {name v : String} {s t : State}
    (hv : ∀ {s v t}, value name s = (.ok v, t) → r.Gives k (.value name) s v t)
    (h : r.reference value name s = (.ok v, t)) : r.Gives k (.reference name) s v t := by
  unfold reference at h
  split at h
  next hname =>
    subst hname
    obtain ⟨⟨⟩, s₁, hurl, h⟩ := Act.of_bind_ok h
    obtain ⟨address, w, hdry, hhost, rfl⟩ := of_bindCurrentUrl_ok hurl
    exact .url hdry hhost (hv h)
  next hname => exact .name hname (hv h)

theorem gives_of_expand {value : String → Lookup String}
    (hv : ∀ {name s v t}, value name s = (.ok v, t) →
      r.Gives k (.reference (Text.trim name)) s v t) {segments : List Segment} {s t : State}
    {v : String} (h : expand value segments s = (.ok v, t)) :
    r.Gives k (.template segments) s v t := by
  induction segments generalizing s v with
  | nil => cases h; exact .nil
  | cons segment rest ih =>
      cases segment with
      | text a =>
          obtain ⟨x, t₁, hrest, h⟩ := Act.of_bind_ok h
          cases h
          exact .text a (ih hrest)
      | reference name =>
          rw [expand] at h
          split at h
          next hname =>
            obtain ⟨x, t₁, hrest, h⟩ := Act.of_bind_ok h
            cases h
            exact .placeholder hname (ih hrest)
          next hname =>
            obtain ⟨y, t₁, hy, h⟩ := Act.of_bind_ok h
            obtain ⟨x, t₂, hrest, h⟩ := Act.of_bind_ok h
            cases h
            exact .fill (by simpa using hname) (hv hy) (ih hrest)

section

variable {value source : String → Lookup String} {locator : String → Lookup Locator}
  {name v : String} {s t : State}

theorem gives_of_evaluate
    (hv : ∀ {name s v t}, value name s = (.ok v, t) →
      r.Gives (k - 1) (.reference (Text.trim name)) s v t)
    (hs : ∀ {name s v t}, source name s = (.ok v, t) →
      r.Gives (k - 1) (.reference (Text.trim name)) s v t) {b : BoundAttribute}
    (hscan : s.store.scan name = .ok (some b))
    (h : r.evaluate value source name b s = (.ok v, t)) : r.Gives (k + 1) (.value name) s v t := by
  have expanded {template x : String} {s t : State}
      (h : expand value (Template.parse template) s = (.ok x, t)) := gives_of_expand hv h
  have nothing (s : State) : r.Gives (k - 1) (.template (Template.parse "")) s "" s := by
    rw [Template.parse_of_not_mem (by decide), if_pos rfl]
    exact .nil
  cases b with
  | literal x => cases h; exact .literal hscan
  | script script =>
      obtain ⟨x, t₁, hx, h⟩ := Act.of_bind_ok h
      obtain ⟨w, hw, rfl⟩ := of_ask_ok (b := .script script) (fun c hc => by cases hc) h
      exact .answer hscan rfl (fun _ hp => by cases hp) (expanded hx) hw
  | process c =>
      obtain ⟨x, t₁, hx, h⟩ := Act.of_bind_ok h
      obtain ⟨w, hw, rfl⟩ := of_ask_ok (b := .process c) (fun _ _ => ⟨c, rfl⟩) h
      exact .answer hscan rfl (fun _ hp => by cases hp) (expanded hx) hw
  | file p =>
      obtain ⟨x, t₁, hx, h⟩ := Act.of_bind_ok h
      obtain ⟨w, hw, rfl⟩ := of_askFile_ok h
      exact .file hscan (expanded hx) hw
  | xpath src e type =>
      obtain ⟨x, t₁, hx, h⟩ := Act.of_bind_ok h
      obtain ⟨y, t₂, hy, h⟩ := Act.of_bind_ok h
      obtain ⟨z, t₃, hz, h⟩ := Act.of_bind_ok h
      obtain ⟨word, t₄, hword, h⟩ := Act.of_bind_ok h
      cases hread : TargetType.read word with
      | error bad => simp only [hread] at h; cases h
      | ok target =>
          simp only [hread] at h
          obtain ⟨w, hw, rfl⟩ := of_ask_ok (b := .xpath src e type) (fun c hc => by cases hc) h
          exact .lookup hscan rfl (expanded hx) (hs hy) (expanded hz) (expanded hword)
            (fun _ _ _ _ => ⟨target, hread⟩) hw
  | regex src e =>
      obtain ⟨x, t₁, hx, h⟩ := Act.of_bind_ok h
      obtain ⟨y, t₂, hy, h⟩ := Act.of_bind_ok h
      obtain ⟨z, t₃, hz, h⟩ := Act.of_bind_ok h
      obtain ⟨w, hw, rfl⟩ := of_ask_ok (b := .regex src e) (fun c hc => by cases hc) h
      exact .lookup hscan rfl (expanded hx) (hs hy) (expanded hz) (nothing _)
        (fun _ _ _ hb => by cases hb) hw
  | jsonPath src e =>
      obtain ⟨x, t₁, hx, h⟩ := Act.of_bind_ok h
      obtain ⟨y, t₂, hy, h⟩ := Act.of_bind_ok h
      obtain ⟨z, t₃, hz, h⟩ := Act.of_bind_ok h
      obtain ⟨w, hw, rfl⟩ := of_ask_ok (b := .jsonPath src e) (fun c hc => by cases hc) h
      exact .lookup hscan rfl (expanded hx) (hs hy) (expanded hz) (nothing _)
        (fun _ _ _ hb => by cases hb) hw

theorem gives_of_unboundValue
    (hl : ∀ {s l t}, locator name s = (.ok l, t) →
      l.element = name ∧ ∃ x, r.Gives k (.locator name) s x t)
    (hscan : s.store.scan name = .ok none) (h : r.unboundValue locator name s = (.ok v, t)) :
    r.Gives (k + 1) (.value name) s v t := by
  unfold unboundValue at h
  cases hdefault : r.defaults name with
  | some d =>
      rw [hdefault] at h
      cases h
      exact .default hscan hdefault
  | none =>
      simp only [hdefault] at h
      obtain ⟨l, t₁, hlocated, h⟩ := Act.of_bind_ok h
      obtain ⟨hname, x, hx⟩ := hl (Act.of_failingAs_ok hlocated)
      rw [liveText_run] at h
      split at h
      next hdry =>
        cases h
        rw [hname]
        exact .unheard hdry hscan hdefault hx
      next hlive =>
        rcases hw : PageReader.text r.interactor l t₁.world with ⟨f | text, w⟩
        · rw [hw] at h; cases h
        · rw [hw] at h
          cases h
          refine .heard (by simpa using hlive) hscan hdefault hx hname ?_
          exact (r.interactor.within_besideHost_withElement none
            Interactor.within_besideHost_readText).of_run hw

theorem gives_of_valueStep
    (hv : ∀ {name s v t}, value name s = (.ok v, t) →
      r.Gives (k - 1) (.reference (Text.trim name)) s v t)
    (hs : ∀ {name s v t}, source name s = (.ok v, t) →
      r.Gives (k - 1) (.reference (Text.trim name)) s v t)
    (hl : ∀ {s l t}, locator name s = (.ok l, t) →
      l.element = name ∧ ∃ x, r.Gives k (.locator name) s x t)
    (h : r.valueStep value source locator name s = (.ok v, t)) :
    r.Gives (k + 1) (.value name) s v t := by
  cases hscan : s.store.scan name with
  | error e =>
      unfold valueStep at h
      rw [Act.bind_run_ok (Act.get_run s), hscan] at h
      cases h
  | ok binding =>
      cases binding with
      | some b =>
          rw [valueStep_of_bound hscan] at h
          exact gives_of_evaluate hv hs hscan h
      | none =>
          rw [valueStep_of_unbound hscan] at h
          exact gives_of_unboundValue hl hscan h

theorem gives_of_locatorStep {element : String} {l : Locator}
    (hv : ∀ {name s v t}, value name s = (.ok v, t) →
      r.Gives (k - 1) (.reference (Text.trim name)) s v t)
    (hl : ∀ {element s l t}, locator element s = (.ok l, t) →
      ∃ x, r.Gives k (.locator element) s x t)
    (h : r.locatorStep value locator element s = (.ok l, t)) :
    ∃ x, r.Gives (k + 1) (.locator element) s x t := by
  obtain ⟨word, strategy, template, x, u, hword, hread, htemplate, hx, h⟩ := of_locatorStep_ok h
  have hx := gives_of_expand hv hx
  rcases of_inContainer_ok h with ⟨halone, rfl, -⟩ | ⟨container, hcontainer, hin⟩
  · exact ⟨x, .alone hword hread htemplate hx halone⟩
  · rcases hin with ⟨hdry, rfl, -, around, haround⟩ | ⟨hlive, around, haround, -⟩
    · exact ⟨x, .insideDry hword hread htemplate hx hcontainer hdry haround⟩
    · obtain ⟨y, hy⟩ := hl haround
      exact ⟨x, .inside hword hread htemplate hx hcontainer hlive hy⟩

end

/-- A lookup that gives a value goes by the rules, at every level. -/
theorem gives_of_levels (r : Resolver Interactor) (room : Nat) :
    (∀ {name s v t}, r.valueAt room name s = (.ok v, t) → r.Gives room (.value name) s v t) ∧
      ∀ {element s l t}, r.locatorAt room element s = (.ok l, t) →
        ∃ x, r.Gives room (.locator element) s x t := by
  induction room using Nat.strongRecOn with
  | ind room ih =>
      cases room with
      | zero =>
          rw [valueAt_zero, locatorAt_zero]
          exact ⟨fun h => (by cases h), fun h => (by cases h)⟩
      | succ room =>
          have hsource {name s v t} (h : r.innerSource room name s = (.ok v, t)) :
              r.Gives (room - 1) (.reference (Text.trim name)) s v t :=
            gives_of_reference (ih (room - 1) (by omega)).1 h
          have hinner {name s v t} (h : r.inner room name s = (.ok v, t)) :
              r.Gives (room - 1) (.reference (Text.trim name)) s v t := by
            cases room with
            | zero => cases h
            | succ room => exact gives_of_reference (ih room (by omega)).1 h
          have hlocator {element s l t} (h : r.locatorAt room element s = (.ok l, t)) :=
            (ih room (by omega)).2 h
          rw [valueAt_succ, locatorAt_succ]
          exact ⟨gives_of_valueStep hinner hsource fun h => ⟨element_of_locatorAt h, hlocator h⟩,
            gives_of_locatorStep hinner hlocator⟩

section

variable {s t : State} {v : String}

theorem gives_of_value {name : String} (h : r.value name s = (.ok v, t)) :
    r.Gives (r.maxDepth + 1) (.value name) s v t :=
  (r.gives_of_levels _).1 h

theorem gives_of_referenceValue {name : String} (h : r.referenceValue name s = (.ok v, t)) :
    r.Gives (r.maxDepth + 1) (.reference name) s v t :=
  gives_of_reference gives_of_value h

theorem gives_of_interpolate {template : String} (h : r.interpolate template s = (.ok v, t)) :
    r.Gives r.maxDepth (.template (Template.parse template)) s v t :=
  gives_of_expand (gives_of_reference (r.gives_of_levels _).1) h

theorem gives_of_locator {element : String} {l : Locator} (h : r.locator element s = (.ok l, t)) :
    ∃ x, r.Gives (r.maxDepth + 1) (.locator element) s x t :=
  (r.gives_of_levels _).2 h

end

end Resolver

end Bindery
