import Bindery.Proofs.Bounds
import Bindery.Resolution.Resolver

/-!
# Bindery — Proofs — Levels

What a lookup does at one level, in terms of the lookups one level deeper: references in a binding
go through `inner`, the name that a binding is looked up in goes through `innerSource`.  Where the
last level is used up, a reference is refused as it is written, and a source only after the address
of the page was read anew.  Where it is known what is bound, the steps of a level are equations.

A bound on what lookups do follows by induction on the levels (`Permits.within_levels`).  What it
takes is in `Permits`: reading the address, asking an evaluator and reading a file stay within the
bounds, and so does the reading of an element's text, which comes only after a scan that found
nothing and defaults that gave nothing.
-/

namespace Bindery.Resolver

/-! ### Locators, step by step -/

section

variable {ι : Type} {r : Resolver ι} {value : String → Lookup String}
  {locator : String → Lookup Locator} {s t : State}

theorem word?_run (key : String) (s : State) :
    word? key s = (.ok (s.store.findWord? key), s) := rfl

theorem locatorWord_run {element key word : String}
    (h : s.store.findWord? key = some word) : locatorWord element key s = (.ok word, s) := by
  unfold locatorWord
  rw [Act.bind_run_ok (word?_run key s), h]
  rfl

theorem strategyOf_run {word : String} {strategy : Strategy}
    (h : Strategy.read word = .ok strategy) (element : String) (s : State) :
    strategyOf element word s = (.ok strategy, s) := by
  unfold strategyOf
  rw [h]
  rfl

/-- The locator of an element whose strategy and expression are bound, up to its container. -/
theorem locatorStep_run {element word template expression : String} {strategy : Strategy}
    (hword : s.store.findWord? (Key.locator element) = some word)
    (hstrategy : Strategy.read word = .ok strategy)
    (htemplate : s.store.findWord? (Key.expression element word) = some template)
    (hexpression : expand value (Template.parse template) s = (.ok expression, t)) :
    r.locatorStep value locator element s =
      r.inContainer locator word (.plain element strategy expression) t := by
  unfold locatorStep
  rw [Act.bind_run_ok (locatorWord_run hword), Act.bind_run_ok (strategyOf_run hstrategy _ s),
    Act.bind_run_ok (locatorWord_run htemplate), Act.bind_run_ok hexpression]

/-- An element that is inside no other one. -/
theorem inContainer_alone {element word expression : String} {strategy : Strategy}
    (h : s.store.findWord? (Key.container element word) = none) :
    r.inContainer locator word (.plain element strategy expression) s =
      (.ok (.plain element strategy expression), s) := by
  have hword : s.store.findWord?
      (Key.container (Locator.plain element strategy expression).element word) = none := h
  rw [inContainer, Act.bind_run_ok (word?_run _ s), hword]
  rfl

/-- An element inside another one, in terms of the locator of that one. -/
theorem inContainer_inside {element word expression container : String} {strategy : Strategy}
    (hlive : r.dryRun = false)
    (h : s.store.findWord? (Key.container element word) = some container) :
    r.inContainer locator word (.plain element strategy expression) s =
      (locator container >>= fun around =>
        pure ((Locator.plain element strategy expression).within around)) s := by
  have hword : s.store.findWord?
      (Key.container (Locator.plain element strategy expression).element word) =
        some container := h
  rw [inContainer, Act.bind_run_ok (word?_run _ s), hword]
  simp [hlive]

/-- In a dry run the other one only has to have a strategy. -/
theorem inContainer_dry {element word expression container : String} {strategy : Strategy}
    (hdry : r.dryRun = true)
    (h : s.store.findWord? (Key.container element word) = some container) :
    r.inContainer locator word (.plain element strategy expression) s =
      (locatorWord container (Key.locator container) >>= fun _ =>
        pure (.plain element strategy expression)) s := by
  have hword : s.store.findWord?
      (Key.container (Locator.plain element strategy expression).element word) =
        some container := h
  rw [inContainer, Act.bind_run_ok (word?_run _ s), hword]
  simp [hdry]

theorem of_locatorWord_ok {element key word : String}
    (h : locatorWord element key s = (.ok word, t)) :
    s.store.findWord? key = some word ∧ t = s := by
  unfold locatorWord at h
  rw [Act.bind_run_ok (word?_run key s)] at h
  cases hword : s.store.findWord? key with
  | none => rw [hword] at h; cases h
  | some w => rw [hword] at h; cases h; exact ⟨rfl, rfl⟩

theorem of_strategyOf_ok {element word : String} {strategy : Strategy}
    (h : strategyOf element word s = (.ok strategy, t)) :
    Strategy.read word = .ok strategy ∧ t = s := by
  unfold strategyOf at h
  cases hread : Strategy.read word with
  | error u => rw [hread] at h; cases h
  | ok found => rw [hread] at h; cases h; exact ⟨rfl, rfl⟩

/-- An element with a container is found in it; in a dry run the container has a strategy. -/
theorem of_inContainer_ok {word : String} {l l' : Locator}
    (h : r.inContainer locator word l s = (.ok l', t)) :
    s.store.findWord? (Key.container l.element word) = none ∧ t = s ∧ l' = l ∨
      ∃ container, s.store.findWord? (Key.container l.element word) = some container ∧
        ((r.dryRun = true ∧ t = s ∧ l' = l ∧
            ∃ around, s.store.findWord? (Key.locator container) = some around) ∨
          (r.dryRun = false ∧ ∃ around, locator container s = (.ok around, t) ∧
            l' = l.within around)) := by
  unfold inContainer at h
  rw [Act.bind_run_ok (word?_run _ s)] at h
  cases hcontainer : s.store.findWord? (Key.container l.element word) with
  | none =>
      rw [hcontainer] at h
      cases h
      exact .inl ⟨rfl, rfl, rfl⟩
  | some container =>
      simp only [hcontainer] at h
      refine .inr ⟨container, rfl, ?_⟩
      split at h
      next hdry =>
        obtain ⟨around, t₁, hword, hl⟩ := Act.of_bind_ok h
        obtain ⟨hword, rfl⟩ := of_locatorWord_ok hword
        cases hl
        exact .inl ⟨hdry, rfl, rfl, around, hword⟩
      next hlive =>
        obtain ⟨around, t₁, haround, h⟩ := Act.of_bind_ok h
        cases h
        exact .inr ⟨by simpa using hlive, around, haround, rfl⟩

/-- An element that has a locator has a strategy and an expression, and is found in its container
then. -/
theorem of_locatorStep_ok {element : String} {l : Locator}
    (h : r.locatorStep value locator element s = (.ok l, t)) :
    ∃ word strategy template x u, s.store.findWord? (Key.locator element) = some word ∧
      Strategy.read word = .ok strategy ∧
      s.store.findWord? (Key.expression element word) = some template ∧
      expand value (Template.parse template) s = (.ok x, u) ∧
      r.inContainer locator word (.plain element strategy x) u = (.ok l, t) := by
  obtain ⟨word, s₁, hword, h⟩ := Act.of_bind_ok h
  obtain ⟨strategy, s₂, hread, h⟩ := Act.of_bind_ok h
  obtain ⟨template, s₃, htemplate, h⟩ := Act.of_bind_ok h
  obtain ⟨x, u, hx, h⟩ := Act.of_bind_ok h
  obtain ⟨hword, h₁⟩ := of_locatorWord_ok hword
  obtain ⟨hread, h₂⟩ := of_strategyOf_ok hread
  obtain ⟨htemplate, h₃⟩ := of_locatorWord_ok htemplate
  -- none of the words that are looked up first changes anything
  rw [h₃, h₂, h₁] at hx
  rw [h₂, h₁] at htemplate
  exact ⟨word, strategy, template, x, u, hword, hread, htemplate, hx, h⟩

end

variable {ι : Type} [PageReader ι] (r : Resolver ι)

/-! ### One level -/

/-- The lookup of a reference in a binding, with so much room below it. -/
def inner : Nat → String → Lookup String
  | 0 => r.tooDeep
  | room + 1 => r.written (r.valueAt room)

/-- The lookup of the name that a binding is looked up in, with so much room below it. -/
def innerSource (room : Nat) : String → Lookup String :=
  r.written (r.valueAt (room - 1))

theorem valueAt_zero : r.valueAt 0 = r.tooDeep := by
  funext name
  rw [valueAt]

theorem valueAt_succ (room : Nat) :
    r.valueAt (room + 1) = r.valueStep (r.inner room) (r.innerSource room) (r.locatorAt room) := by
  funext name
  cases room with
  | zero => rw [valueAt, inner, innerSource, Nat.zero_sub, valueAt_zero]
  | succ room => rw [valueAt, inner, innerSource, Nat.add_sub_cancel]

theorem locatorAt_zero : r.locatorAt 0 = r.tooDeep := by
  funext element
  rw [locatorAt]

theorem locatorAt_succ (room : Nat) :
    r.locatorAt (room + 1) = r.locatorStep (r.inner room) (r.locatorAt room) := by
  funext element
  cases room with
  | zero => rw [locatorAt, inner]
  | succ room => rw [locatorAt, inner]

/-! ### Values where it is known what is bound -/

section

variable {r} {value source : String → Lookup String} {locator : String → Lookup Locator}
  {name : String} {s : State}

/-- Only the address of the page is read anew. -/
theorem reference_of_ne (h : name ≠ Key.currentUrl) : r.reference value name = value name :=
  if_neg h

/-- A name that has a binding takes its value from it. -/
theorem valueStep_of_bound {binding : BoundAttribute}
    (h : s.store.scan name = .ok (some binding)) :
    r.valueStep value source locator name s = r.evaluate value source name binding s := by
  unfold valueStep
  rw [Act.bind_run_ok (Act.get_run s), Act.bind_run_ok (x := some binding) (t := s)]
  rw [Act.ofExcept_run, h]

theorem valueStep_of_fault {f : ResolutionFault} (h : s.store.scan name = .error f) :
    r.valueStep value source locator name s = (.error f, s) := by
  unfold valueStep
  rw [Act.bind_run_ok (Act.get_run s), Act.bind_run_error (e := f) (t := s)]
  rw [Act.ofExcept_run, h]

theorem valueStep_of_unbound (h : s.store.scan name = .ok none) :
    r.valueStep value source locator name s = r.unboundValue locator name s := by
  unfold valueStep
  rw [Act.bind_run_ok (Act.get_run s), Act.bind_run_ok (x := none) (t := s)]
  rw [Act.ofExcept_run, h]

/-- A name that is bound to a text has it for its value, which is found at the first level. -/
theorem valueAt_of_literal {v : String} (h : s.store.scan name = .ok (some (.literal v)))
    (room : Nat) : r.valueAt (room + 1) name s = (.ok v, s) := by
  rw [valueAt_succ, valueStep_of_bound h]
  rfl

end

/-! ### Bounds on every level -/

/-- Bounds that the actions lookups are made of stay within. -/
structure Permits (B : Bounds State) : Prop where
  url : Act.Within B r.bindCurrentUrl
  ask : ∀ name kind q, Act.Within B (r.ask name kind q)
  file : ∀ name path, Act.Within B (r.askFile name path)
  text : ∀ {room : Nat} {name : String} {l : Locator} {s t : State},
    s.store.scan name = .ok none → r.defaults name = none →
    r.locatorAt room name s = (.ok l, t) → B.done s t → B.Allows s (r.liveText l t)

variable {r} {B : Bounds State}

omit [PageReader ι] in
theorem within_tooDeep {α : Type} (name : String) : Act.Within B (r.tooDeep name : Lookup α) :=
  .throw _

theorem within_expand {value : String → Lookup String} (h : ∀ name, Act.Within B (value name)) :
    ∀ segments, Act.Within B (expand value segments)
  | [] => .pure _
  | .text s :: rest => .bind (within_expand h rest) fun _ => .pure _
  | .reference name :: rest => by
      rw [expand]
      exact .ite (.bind (within_expand h rest) fun _ => .pure _)
        (.bind (h name) fun _ => .bind (within_expand h rest) fun _ => .pure _)

theorem within_word? (key : String) : Act.Within B (word? key) := .bind .get fun _ => .pure _

theorem within_locatorWord (element key : String) : Act.Within B (locatorWord element key) := by
  refine .bind (within_word? key) fun word => ?_
  cases word with
  | none => exact .throw _
  | some v => exact .pure v

theorem within_strategyOf (element word : String) : Act.Within B (strategyOf element word) := by
  unfold strategyOf
  cases Strategy.read word with
  | error u => exact .throw _
  | ok s => exact .pure s

namespace Permits

theorem within_reference (h : r.Permits B) {value : String → Lookup String} {name : String}
    (hv : Act.Within B (value name)) : Act.Within B (r.reference value name) := by
  unfold reference
  exact .ite (.bind h.url fun _ => hv) hv

theorem within_evaluate (h : r.Permits B) {value source : String → Lookup String}
    (hv : ∀ name, Act.Within B (value name)) (hs : ∀ name, Act.Within B (source name))
    (name : String) (b : BoundAttribute) : Act.Within B (r.evaluate value source name b) := by
  have expanded (template : String) : Act.Within B (expand value (Template.parse template)) :=
    within_expand hv _
  cases b with
  | literal v => exact .pure v
  | script s => exact .bind (expanded s) fun _ => h.ask _ _ _
  | xpath s e t =>
      refine .bind (expanded s) fun _ => .bind (hs _) fun _ => .bind (expanded e) fun _ =>
        .bind (expanded t) fun word => ?_
      cases TargetType.read word with
      | error w => exact .throw _
      | ok target => exact h.ask _ _ _
  | regex s e | jsonPath s e =>
      exact .bind (expanded s) fun _ => .bind (hs _) fun _ => .bind (expanded e) fun _ =>
        h.ask _ _ _
  | process c => exact .bind (expanded c) fun _ => h.ask _ _ _
  | file p => exact .bind (expanded p) fun _ => h.file _ _

omit [PageReader ι] in
theorem within_inContainer {locator : String → Lookup Locator}
    (hl : ∀ name, Act.Within B (locator name)) (word : String) (l : Locator) :
    Act.Within B (r.inContainer locator word l) := by
  refine .bind (within_word? _) fun container => ?_
  cases container with
  | none => exact .pure l
  | some c =>
      exact .ite (.bind (within_locatorWord _ _) fun _ => .pure _)
        (.bind (hl c) fun _ => .pure _)

omit [PageReader ι] in
theorem within_locatorStep {value : String → Lookup String} {locator : String → Lookup Locator}
    (hv : ∀ name, Act.Within B (value name)) (hl : ∀ name, Act.Within B (locator name))
    (element : String) : Act.Within B (r.locatorStep value locator element) := by
  unfold locatorStep
  exact .bind (within_locatorWord _ _) fun _ => .bind (within_strategyOf _ _) fun _ =>
    .bind (within_locatorWord _ _) fun _ => .bind (within_expand hv _) fun _ =>
    within_inContainer hl _ _

/-- A text is read from the page only where the scan found nothing, so the bound on reading it may
rely on that. -/
theorem within_valueStep (h : r.Permits B) {value source : String → Lookup String} {room : Nat}
    (hv : ∀ name, Act.Within B (value name)) (hs : ∀ name, Act.Within B (source name))
    (hl : ∀ name, Act.Within B (r.locatorAt room name)) (name : String) :
    Act.Within B (r.valueStep value source (r.locatorAt room) name) := by
  intro s
  rw [valueStep, Act.bind_run_ok (Act.get_run s)]
  cases found : s.store.scan name with
  | error e => exact .failed (B.stop s)
  | ok binding =>
      rw [Act.bind_run_ok (Act.ofExcept_run _ s)]
      cases binding with
      | some b => exact h.within_evaluate hv hs name b s
      | none =>
          show B.Allows s (r.unboundValue (r.locatorAt room) name s)
          unfold unboundValue
          cases default : r.defaults name with
          | some v => exact .done (B.refl s)
          | none =>
              have located := hl name s
              simp only
              rcases e : r.locatorAt room name s with ⟨_ | l, t⟩
              · rw [e] at located
                rw [Act.bind_run_error (Act.failingAs_run_error _ e)]
                exact .failed located.of_error
              · rw [e] at located
                rw [Act.bind_run_ok (Act.failingAs_run_ok _ e)]
                exact h.text found default e located.of_ok

/-- What lookups are made of stays within bounds, and so do lookups of every depth. -/
theorem within_levels (h : r.Permits B) (room : Nat) :
    (∀ name, Act.Within B (r.valueAt room name)) ∧
      ∀ element, Act.Within B (r.locatorAt room element) := by
  induction room using Nat.strongRecOn with
  | ind room ih =>
      cases room with
      | zero =>
          rw [valueAt_zero, locatorAt_zero]
          exact ⟨within_tooDeep, within_tooDeep⟩
      | succ room =>
          have hsource : ∀ name, Act.Within B (r.innerSource room name) := fun name =>
            h.within_reference ((ih (room - 1) (by omega)).1 _)
          have hinner : ∀ name, Act.Within B (r.inner room name) := by
            cases room with
            | zero => exact within_tooDeep
            | succ room => exact fun name => h.within_reference ((ih room (by omega)).1 _)
          have hl := (ih room (by omega)).2
          rw [valueAt_succ, locatorAt_succ]
          exact ⟨h.within_valueStep hinner hsource hl, within_locatorStep hinner hl⟩

theorem within_inner (h : r.Permits B) (room : Nat) (name : String) :
    Act.Within B (r.inner room name) := by
  cases room with
  | zero => exact within_tooDeep name
  | succ room => exact h.within_reference ((h.within_levels room).1 _)

theorem within_value (h : r.Permits B) (name : String) : Act.Within B (r.value name) :=
  (h.within_levels _).1 name

theorem within_locator (h : r.Permits B) (element : String) : Act.Within B (r.locator element) :=
  (h.within_levels _).2 element

theorem within_referenceValue (h : r.Permits B) (name : String) :
    Act.Within B (r.referenceValue name) :=
  h.within_reference (h.within_value name)

theorem within_interpolate (h : r.Permits B) (template : String) :
    Act.Within B (r.interpolate template) :=
  within_expand (fun _ => h.within_reference ((h.within_levels _).1 _)) _

end Permits

end Bindery.Resolver
