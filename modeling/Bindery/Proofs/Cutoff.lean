import Bindery.Proofs.Levels
import Bindery.Session.Basic

/-!
# Bindery — Proofs — Cutoff

The limit on levels only cuts lookups off: a lookup that was not cut off does the same under every
larger limit, whether it gives a value or fails (`deeper_limit_same_answer`).

The two lookups are compared state by state.  One action *agrees* with another up to cut-offs when
it ends in one or does all that the other does (`Act.Agrees`); that passes from the parts of an
action to the whole only because no part is tried again or replaced when it was cut off.  The one
place where failures of lookups are taken for others is that of an element without a locator
(`asUnbound`), and that leaves cut-offs alone.
-/

namespace Bindery

variable {σ ε ε' α β : Type}

namespace Act

/-- The first action ends in a failure that counts as a cut-off, or the second does the same. -/
def Agrees (cut : ε → Prop) (a b : Act σ ε α) : Prop :=
  ∀ s, (∃ e t, a s = (.error e, t) ∧ cut e) ∨ b s = a s

namespace Agrees

variable {cut : ε → Prop}

theorem refl (a : Act σ ε α) : Agrees cut a a := fun _ => .inr rfl

theorem cutOff {e : ε} (h : cut e) (b : Act σ ε α) : Agrees cut (throw e) b :=
  fun s => .inl ⟨e, s, rfl, h⟩

theorem bind {a b : Act σ ε α} {f g : α → Act σ ε β} (hab : Agrees cut a b)
    (hfg : ∀ x, Agrees cut (f x) (g x)) : Agrees cut (a >>= f) (b >>= g) := by
  intro s
  rcases hab s with ⟨e, t, ha, he⟩ | hb
  · exact .inl ⟨e, t, bind_run_error ha, he⟩
  -- the first parts end alike, so the second parts begin in one state
  · rcases ha : a s with ⟨e | x, t⟩
    · exact .inr (by rw [bind_run_error ha, bind_run_error (hb.trans ha)])
    · rw [bind_run_ok ha, bind_run_ok (hb.trans ha)]
      exact hfg x t

theorem map {a b : Act σ ε α} (hab : Agrees cut a b) (f : α → Act σ ε β) :
    Agrees cut (a >>= f) (b >>= f) := hab.bind fun x => refl (f x)

theorem failingAs {cut' : ε' → Prop} {f : ε → ε'} (hf : ∀ e, cut e → cut' (f e))
    {a b : Act σ ε α} (hab : Agrees cut a b) : Agrees cut' (a.failingAs f) (b.failingAs f) := by
  intro s
  rcases hab s with ⟨e, t, ha, he⟩ | hb
  · exact .inl ⟨f e, t, failingAs_run_error f ha, hf e he⟩
  · exact .inr (by unfold Act.failingAs; rw [hb])

theorem ite {c : Prop} [Decidable c] {a b a' b' : Act σ ε α} (h : Agrees cut a b)
    (h' : Agrees cut a' b') : Agrees cut (if c then a else a') (if c then b else b') := by
  split
  · exact h
  · exact h'

/-- Where the first action was not cut off, the second ends as it does and in the same state. -/
theorem run_eq {a b : Act σ ε α} (hab : Agrees cut a b) {s : σ}
    (h : ∀ e, (a s).1 = .error e → ¬ cut e) : b s = a s := by
  rcases hab s with ⟨e, t, ha, he⟩ | hb
  · exact absurd he (h e (by rw [ha]))
  · exact hb

end Agrees

end Act

/-- The failure of a lookup that ran out of levels. -/
def ResolutionFault.IsCutoff : ResolutionFault → Prop
  | .tooDeep .. => True
  | _ => False

namespace Resolver

variable {ι : Type}

/-- Two lookups agree up to cut-offs. -/
abbrev Agree (a b : Lookup α) : Prop := Act.Agrees ResolutionFault.IsCutoff a b

/-! ### Another limit -/

/-- The same means with another limit on levels. -/
def withLimit (r : Resolver ι) (limit : Nat) : Resolver ι := { r with maxDepth := limit }

variable {r : Resolver ι} {value value' source source' : String → Lookup String}
  {locator locator' : String → Lookup Locator}

/-! The steps of a level do not look at the limit. -/

theorem ask_withLimit (limit : Nat) : (r.withLimit limit).ask = r.ask := rfl

theorem askFile_withLimit (limit : Nat) : (r.withLimit limit).askFile = r.askFile := rfl

theorem evaluate_withLimit (limit : Nat) (name : String) (b : BoundAttribute) :
    (r.withLimit limit).evaluate value source name b = r.evaluate value source name b := by
  cases b <;> unfold evaluate <;> simp only [ask_withLimit, askFile_withLimit]

theorem locatorStep_withLimit (limit : Nat) :
    (r.withLimit limit).locatorStep value locator = r.locatorStep value locator := rfl

/-! ### One level -/

theorem agree_tooDeep (name : String) (b : Lookup α) : Agree (r.tooDeep name) b :=
  .cutOff trivial b

theorem agree_expand (h : ∀ name, Agree (value name) (value' name)) :
    ∀ segments, Agree (expand value segments) (expand value' segments)
  | [] => .refl _
  | .text s :: rest => .map (agree_expand h rest) _
  | .reference name :: rest => by
      rw [expand, expand]
      exact .ite (.map (agree_expand h rest) _)
        (.bind (h name) fun v => .map (agree_expand h rest) _)

theorem agree_evaluate (hv : ∀ name, Agree (value name) (value' name))
    (hs : ∀ name, Agree (source name) (source' name)) (name : String) (b : BoundAttribute) :
    Agree (r.evaluate value source name b) (r.evaluate value' source' name b) := by
  have expanded (template : String) : Agree (expand value (Template.parse template))
      (expand value' (Template.parse template)) := agree_expand hv _
  cases b with
  | literal v => exact .refl _
  | script s => exact .map (expanded s) _
  | xpath s e t =>
      exact .bind (expanded s) fun _ => .bind (hs _) fun _ => .bind (expanded e) fun _ =>
        .map (expanded t) _
  | regex s e | jsonPath s e =>
      exact .bind (expanded s) fun _ => .bind (hs _) fun _ => .map (expanded e) _
  | process c => exact .map (expanded c) _
  | file p => exact .map (expanded p) _

theorem agree_inContainer (hl : ∀ element, Agree (locator element) (locator' element))
    (word : String) (l : Locator) :
    Agree (r.inContainer locator word l) (r.inContainer locator' word l) := by
  refine .bind (.refl _) fun container => ?_
  cases container with
  | none => exact .refl _
  | some c => exact .ite (.refl _) (.map (hl c) _)

theorem agree_locatorStep (hv : ∀ name, Agree (value name) (value' name))
    (hl : ∀ element, Agree (locator element) (locator' element)) (element : String) :
    Agree (r.locatorStep value locator element) (r.locatorStep value' locator' element) :=
  .bind (.refl _) fun _ => .bind (.refl _) fun _ => .bind (.refl _) fun _ =>
    .bind (agree_expand hv _) fun _ => agree_inContainer hl _ _

variable [PageReader ι]

theorem reference_withLimit (limit : Nat) : (r.withLimit limit).reference = r.reference := rfl

theorem unboundValue_withLimit (limit : Nat) :
    (r.withLimit limit).unboundValue locator = r.unboundValue locator := rfl

theorem valueStep_withLimit (limit : Nat) (name : String) :
    (r.withLimit limit).valueStep value source locator name =
      r.valueStep value source locator name := by
  unfold valueStep
  simp only [evaluate_withLimit, unboundValue_withLimit]

theorem agree_reference {name : String} (h : Agree (value name) (value' name)) :
    Agree (r.reference value name) (r.reference value' name) := by
  unfold reference
  exact .ite (.bind (.refl _) fun _ => h) h

theorem agree_written (limit : Nat) (h : ∀ name, Agree (value name) (value' name))
    (name : String) : Agree (r.written value name) ((r.withLimit limit).written value' name) := by
  unfold written
  rw [reference_withLimit]
  exact agree_reference (h _)

/-- A locator that was cut off leaves its element cut off, and not without a value. -/
theorem agree_unboundValue (hl : ∀ element, Agree (locator element) (locator' element))
    (name : String) : Agree (r.unboundValue locator name) (r.unboundValue locator' name) := by
  have hcut (f : ResolutionFault) (h : f.IsCutoff) : (asUnbound name f).IsCutoff := by
    cases f with
    | tooDeep => exact trivial
    | _ => exact h
  unfold unboundValue
  cases r.defaults name with
  | some v => exact .refl _
  | none => exact .map (.failingAs hcut (hl name)) _

theorem agree_valueStep (hv : ∀ name, Agree (value name) (value' name))
    (hs : ∀ name, Agree (source name) (source' name))
    (hl : ∀ element, Agree (locator element) (locator' element)) (name : String) :
    Agree (r.valueStep value source locator name)
      (r.valueStep value' source' locator' name) := by
  refine .bind (.refl _) fun s => .bind (.refl _) fun binding => ?_
  cases binding with
  | some b => exact agree_evaluate hv hs name b
  | none => exact agree_unboundValue hl name

/-! ### All levels -/

/-- Lookups agree with those that have more room, whatever the limits that failures name. -/
theorem agree_levels (limit room : Nat) : ∀ room', room ≤ room' →
    (∀ name, Agree (r.valueAt room name) ((r.withLimit limit).valueAt room' name)) ∧
      ∀ element, Agree (r.locatorAt room element)
        ((r.withLimit limit).locatorAt room' element) := by
  induction room using Nat.strongRecOn with
  | ind room ih =>
      intro room' hroom
      cases room with
      | zero =>
          -- without room both are cut off, whatever the others do
          rw [valueAt_zero, locatorAt_zero]
          exact ⟨fun name => agree_tooDeep name _, fun element => agree_tooDeep element _⟩
      | succ room =>
          obtain ⟨room', rfl⟩ : ∃ n, room' = n + 1 := ⟨room' - 1, by omega⟩
          have hsource (name : String) :
              Agree (r.innerSource room name) ((r.withLimit limit).innerSource room' name) :=
            agree_written limit (ih (room - 1) (by omega) (room' - 1) (by omega)).1 name
          have hinner (name : String) :
              Agree (r.inner room name) ((r.withLimit limit).inner room' name) := by
            cases room with
            | zero => exact agree_tooDeep name _
            | succ room =>
                obtain ⟨room', rfl⟩ : ∃ n, room' = n + 1 := ⟨room' - 1, by omega⟩
                exact agree_written limit (ih room (by omega) room' (by omega)).1 name
          have hlocator := (ih room (by omega) room' (by omega)).2
          simp only [valueAt_succ, locatorAt_succ, valueStep_withLimit, locatorStep_withLimit]
          exact ⟨agree_valueStep hinner hsource hlocator, agree_locatorStep hinner hlocator⟩

variable {limit : Nat}

theorem agree_value (h : r.maxDepth ≤ limit) (name : String) :
    Agree (r.value name) ((r.withLimit limit).value name) :=
  (agree_levels limit _ _ (Nat.succ_le_succ h)).1 name

theorem agree_locator (h : r.maxDepth ≤ limit) (element : String) :
    Agree (r.locator element) ((r.withLimit limit).locator element) :=
  (agree_levels limit _ _ (Nat.succ_le_succ h)).2 element

theorem agree_referenceValue (h : r.maxDepth ≤ limit) (name : String) :
    Agree (r.referenceValue name) ((r.withLimit limit).referenceValue name) :=
  agree_reference (agree_value h name)

theorem agree_interpolate (h : r.maxDepth ≤ limit) (template : String) :
    Agree (r.interpolate template) ((r.withLimit limit).interpolate template) :=
  agree_expand (agree_written limit (agree_levels limit _ _ h).1) _

theorem agree_selection (h : r.maxDepth ≤ limit) (name : String) (facet : Facet) :
    Agree (r.selection name facet) ((r.withLimit limit).selection name facet) :=
  .map (agree_locator h name) _

/-- A lookup ended otherwise than by running out of levels. -/
def Finished (result : Except ResolutionFault α) : Prop :=
  ∀ name limit, result ≠ .error (.tooDeep name limit)

theorem run_eq_of_finished {a b : Lookup α} (hab : Agree a b) {s : State}
    (h : Finished (a s).1) : b s = a s := by
  refine hab.run_eq fun e he => ?_
  cases e with
  | tooDeep name limit => exact absurd he (h name limit)
  | _ => exact id

/-- **The limit on levels only cuts off, it never changes an answer.**  A lookup that ends
otherwise than by running out of levels, with a value or with a failure, ends in the same way under
every larger limit, and leaves the same state: the same bindings, the same browser and the same
questions to evaluators. -/
theorem deeper_limit_same_answer (r : Resolver ι) (limit : Nat) (h : r.maxDepth ≤ limit)
    (s : State) :
    (∀ name, Finished (r.value name s).1 →
        (r.withLimit limit).value name s = r.value name s) ∧
      (∀ name, Finished (r.referenceValue name s).1 →
        (r.withLimit limit).referenceValue name s = r.referenceValue name s) ∧
      (∀ template, Finished (r.interpolate template s).1 →
        (r.withLimit limit).interpolate template s = r.interpolate template s) ∧
      (∀ element, Finished (r.locator element s).1 →
        (r.withLimit limit).locator element s = r.locator element s) ∧
      ∀ name facet, Finished (r.selection name facet s).1 →
        (r.withLimit limit).selection name facet s = r.selection name facet s :=
  ⟨fun name => run_eq_of_finished (agree_value h name),
    fun name => run_eq_of_finished (agree_referenceValue h name),
    fun template => run_eq_of_finished (agree_interpolate h template),
    fun element => run_eq_of_finished (agree_locator h element),
    fun name facet => run_eq_of_finished (agree_selection h name facet)⟩

/-- Means that allow for two levels below the first, with evaluators that say what they are
asked. -/
def twoDeep : Resolver Interactor :=
  ⟨⟨Settings.standard.interaction, .none⟩, Evaluators.echo, fun _ => none, false, 2⟩

/-- A greeting that is a script with a word in it. -/
def greetingState : State :=
  Session.begin ⟨[⟨.page, Session.pageName, [("greeting/javascript", "'$[word]'"),
    ("word", "hello")]⟩], []⟩ (World.fresh .bare [])

/-- Two levels are enough for the greeting, and more of them leave it as it is. -/
theorem greeting_same_deeper :
    twoDeep.maxDepth ≤ 16 ∧
      (twoDeep.value "greeting" greetingState).1.toOption =
        some "evaluated(return 'hello')" ∧
      (twoDeep.withLimit 16).value "greeting" greetingState =
        twoDeep.value "greeting" greetingState := by
  have hgreeting : (twoDeep.value "greeting" greetingState).1.toOption =
      some "evaluated(return 'hello')" := by decide +kernel
  refine ⟨by decide, hgreeting, ?_⟩
  refine (deeper_limit_same_answer twoDeep 16 (by decide) greetingState).1 "greeting" ?_
  intro name limit hcut
  rw [hcut] at hgreeting
  cases hgreeting

end Resolver

end Bindery
