import Bindery.Proofs.Levels
import Bindery.Proofs.Segments
import Bindery.Session.Basic

/-!
# Bindery — Proofs — Cycles

Names that are looked up in a circle.  `Depends` says of a name which other name is the first that
its lookup cannot do without: the first reference in a template, the source of a lookup, or the
first reference in the expression of its element's locator.  Up to that other name nothing is read
from the page and nobody is asked, and it is looked up with less room.  So names that only depend on
each other run out of levels whatever the limit is, and leave no trace (`runsOut_valueAt`).
-/

namespace Bindery

open Template (Segment)

namespace Template

/-- The first name that is looked up for a template. -/
def firstName? : List Segment → Option String
  | [] => none
  | .text _ :: rest => firstName? rest
  | .reference name :: rest =>
    if isPlaceholder name then firstName? rest else some (Text.trim name)

/-- A template in which no bracket is closed is a text. -/
theorem parse_of_not_mem {template : String} (h : ']' ∉ template.toList) :
    parse template = if template = "" then [] else [.text template] := by
  have hnone : firstReference? template.toList = none := by
    cases e : firstReference? template.toList with
    | none => rfl
    | some found => exact absurd (by rw [eq_append_of_firstReference? e]; simp) h
  rw [parse, parseList_of_none hnone]
  simp [String.toList_eq_nil_iff]

end Template

/-- The template that a binding expands before it does anything else, where it makes use of the
result itself. -/
def BoundAttribute.template? : BoundAttribute → Option String
  | .script t | .process t | .file t => some t
  | _ => none

/-- The template of the name that a binding is looked up in. -/
def BoundAttribute.source? : BoundAttribute → Option String
  | .xpath s _ _ | .regex s _ | .jsonPath s _ => some s
  | _ => none

namespace Resolver

variable {ι : Type}

/-- The lookup of a name first depends on that of another one. -/
inductive Depends (r : Resolver ι) (store : ScopeStack) (name next : String) : Prop where
  | template {binding : BoundAttribute} {template : String} :
      store.scan name = .ok (some binding) → binding.template? = some template →
      Template.firstName? (Template.parse template) = some next → Depends r store name next
  | source {binding : BoundAttribute} :
      store.scan name = .ok (some binding) → binding.source? = some next →
      Depends r store name next
  | locator {word template : String} {strategy : Strategy} :
      store.scan name = .ok none → r.defaults name = none →
      store.findWord? (Key.locator name) = some word → Strategy.read word = .ok strategy →
      store.findWord? (Key.expression name word) = some template →
      Template.firstName? (Template.parse template) = some next → Depends r store name next

/-- A name that is looked up as it is written, in a template as in a source. -/
structure Plain (name : String) : Prop where
  trimmed : Text.trim name = name
  unclosed : ']' ∉ name.toList
  ne_currentUrl : name ≠ Key.currentUrl

variable {α β : Type} {r : Resolver ι} {s : State} {P : String → Prop}

/-- A lookup runs out of levels at one of some names, and changes nothing. -/
def RunsOut (r : Resolver ι) (P : String → Prop) (s : State) (a : Lookup α) : Prop :=
  ∃ name, P (Text.trim name) ∧ a s = (.error (.tooDeep name r.maxDepth), s)

namespace RunsOut

theorem tooDeep {name : String} (h : P (Text.trim name)) :
    RunsOut r P s (r.tooDeep name : Lookup α) := ⟨name, h, rfl⟩

theorem bind {a : Lookup α} (h : RunsOut r P s a) (f : α → Lookup β) :
    RunsOut r P s (a >>= f) := by
  obtain ⟨name, hname, ha⟩ := h
  exact ⟨name, hname, Act.bind_run_error ha⟩

/-- What comes before and changes nothing is of no concern. -/
theorem of_run_ok {a : Lookup α} {x : α} {f : α → Lookup β} (ha : a s = (.ok x, s))
    (h : RunsOut r P s (f x)) : RunsOut r P s (a >>= f) := by
  obtain ⟨name, hname, hf⟩ := h
  exact ⟨name, hname, by rw [Act.bind_run_ok ha, hf]⟩

theorem of_run_eq {a b : Lookup α} (hab : a s = b s) (h : RunsOut r P s b) : RunsOut r P s a := by
  obtain ⟨name, hname, hb⟩ := h
  exact ⟨name, hname, hab.trans hb⟩

theorem asUnbound {a : Lookup α} (h : RunsOut r P s a) (element : String) :
    RunsOut r P s (a.failingAs (asUnbound element)) := by
  obtain ⟨name, hname, ha⟩ := h
  exact ⟨name, hname, Act.failingAs_run_error _ ha⟩

/-- Expanding a template looks up its first name before anything else. -/
theorem expand {value : String → Lookup String} {next : String} {segments : List Segment}
    (hfirst : Template.firstName? segments = some next)
    (h : ∀ name, Text.trim name = next → RunsOut r P s (value name)) :
    RunsOut r P s (expand value segments) := by
  induction segments with
  | nil => cases hfirst
  | cons segment rest ih =>
      cases segment with
      | text t => exact .bind (ih hfirst) _
      | reference name =>
          rw [Template.firstName?] at hfirst
          rw [Resolver.expand]
          split at hfirst
          next hplaceholder =>
            -- a placeholder is passed over, here as in `firstName?`
            rw [if_pos hplaceholder]
            exact .bind (ih hfirst) _
          next hplaceholder =>
            rw [if_neg hplaceholder]
            exact .bind (h name (Option.some.inj hfirst)) _

end RunsOut

/-! ### What a binding looks up first -/

/-- A plain name as a template is itself. -/
theorem expand_of_plain {name : String} (h : Plain name) (value : String → Lookup String)
    (s : State) : expand value (Template.parse name) s = (.ok name, s) := by
  rw [Template.parse_of_not_mem h.unclosed]
  split
  next hempty => rw [hempty]; rfl
  next =>
    rw [expand, expand, pure_bind, String.append_empty]
    rfl

theorem evaluate_of_template? (value source : String → Lookup String) {binding : BoundAttribute}
    {template : String} (h : binding.template? = some template) (name : String) :
    ∃ f, r.evaluate value source name binding =
      expand value (Template.parse template) >>= f := by
  cases binding <;> cases h <;> exact ⟨_, rfl⟩

theorem evaluate_of_source? (value source : String → Lookup String) {binding : BoundAttribute}
    {template : String} (h : binding.source? = some template) (name : String) :
    ∃ f, r.evaluate value source name binding =
      expand value (Template.parse template) >>= fun name => source name >>= f := by
  cases binding <;> cases h <;> exact ⟨_, rfl⟩

/-! ### Levels -/

variable [PageReader ι]

/-- A plain name is looked up as it is written. -/
theorem written_of_plain {value : String → Lookup String} {name next : String}
    (h : Plain next) (hname : Text.trim name = next) : r.written value name = value next := by
  unfold written
  rw [hname, reference_of_ne h.ne_currentUrl]

section

variable {next : String} {room : Nat}

/-- What a template refers to is looked up with less room, if there is any left. -/
theorem runsOut_inner (hnext : Plain next) (hP : P next)
    (h : ∀ k < room, RunsOut r P s (r.valueAt k next)) (name : String)
    (hname : Text.trim name = next) : RunsOut r P s (r.inner room name) := by
  cases room with
  | zero => exact .tooDeep (hname ▸ hP)
  | succ room =>
      rw [inner, written_of_plain hnext hname]
      exact h room (Nat.lt_succ_self room)

/-- Whatever binding a name has, what it depends on runs out of levels before anything else is
done with it. -/
theorem runsOut_evaluate_template (hnext : Plain next) (hP : P next)
    (h : ∀ k ≤ room, RunsOut r P s (r.valueAt k next)) {binding : BoundAttribute}
    {template : String} (htemplate : binding.template? = some template)
    (hfirst : Template.firstName? (Template.parse template) = some next) (name : String) :
    RunsOut r P s (r.evaluate (r.inner room) (r.innerSource room) name binding) := by
  obtain ⟨f, hf⟩ :=
    evaluate_of_template? (r := r) (r.inner room) (r.innerSource room) htemplate name
  rw [hf]
  exact .bind (.expand hfirst (runsOut_inner hnext hP fun k hk => h k (Nat.le_of_lt hk))) f

theorem runsOut_evaluate_source (hnext : Plain next)
    (h : ∀ k ≤ room, RunsOut r P s (r.valueAt k next)) {binding : BoundAttribute}
    (hsource : binding.source? = some next) (name : String) :
    RunsOut r P s (r.evaluate (r.inner room) (r.innerSource room) name binding) := by
  obtain ⟨f, hf⟩ := evaluate_of_source? (r := r) (r.inner room) (r.innerSource room) hsource name
  rw [hf]
  -- the source is a name without references: expanding it gives it back
  refine .of_run_ok (expand_of_plain hnext _ s) (.bind ?_ f)
  rw [innerSource, written_of_plain hnext hnext.trimmed]
  exact h (room - 1) (Nat.sub_le room 1)

/-- The locator of an element runs out of levels in its expression. -/
theorem runsOut_locatorAt (hnext : Plain next) (hP : P next)
    (h : ∀ k ≤ room, RunsOut r P s (r.valueAt k next)) {element word template : String}
    {strategy : Strategy} (helement : P (Text.trim element))
    (hword : s.store.findWord? (Key.locator element) = some word)
    (hstrategy : Strategy.read word = .ok strategy)
    (htemplate : s.store.findWord? (Key.expression element word) = some template)
    (hfirst : Template.firstName? (Template.parse template) = some next) :
    RunsOut r P s (r.locatorAt room element) := by
  cases room with
  | zero =>
      rw [locatorAt_zero]
      exact .tooDeep helement
  | succ room =>
      rw [locatorAt_succ]
      refine .of_run_ok (locatorWord_run hword) ?_
      refine .of_run_ok (strategyOf_run hstrategy element s) ?_
      refine .of_run_ok (locatorWord_run htemplate) ?_
      exact .bind (.expand hfirst (runsOut_inner hnext hP fun k hk => h k (by omega))) _

end

/-- Names that only depend on each other run out of levels, however many there are. -/
theorem runsOut_valueAt (hplain : ∀ name, P name → Plain name)
    (hdepends : ∀ name, P name → ∃ next, P next ∧ r.Depends s.store name next) (room : Nat) :
    ∀ name, P name → RunsOut r P s (r.valueAt room name) := by
  -- each kind of dependence takes a number of levels of its own, so all less room counts
  induction room using Nat.strongRecOn with
  | ind room ih =>
      intro name hname
      have htrim : P (Text.trim name) := (hplain name hname).trimmed.symm ▸ hname
      cases room with
      | zero =>
          rw [valueAt_zero]
          exact .tooDeep htrim
      | succ room =>
          obtain ⟨next, hnext, hdepends⟩ := hdepends name hname
          have hplain := hplain next hnext
          have h : ∀ k ≤ room, RunsOut r P s (r.valueAt k next) := fun k hk =>
            ih k (Nat.lt_succ_of_le hk) next hnext
          rw [valueAt_succ]
          cases hdepends with
          | template hscan htemplate hfirst =>
              exact .of_run_eq (valueStep_of_bound hscan)
                (runsOut_evaluate_template hplain hnext h htemplate hfirst name)
          | source hscan hsource =>
              exact .of_run_eq (valueStep_of_bound hscan)
                (runsOut_evaluate_source hplain h hsource name)
          | locator hscan hdefault hword hstrategy htemplate hfirst =>
              have hlocator := runsOut_locatorAt hplain hnext h htrim hword hstrategy htemplate
                hfirst
              -- an element that was cut off is not taken for one without a locator
              refine .of_run_eq (valueStep_of_unbound hscan) ?_
              simp only [unboundValue, hdefault]
              exact .bind (hlocator.asUnbound name) _

/-- **Every cycle of names is cut off, and leaves no trace.**  Of names that each first depend on
the next one, the last on the first, the lookup runs out of levels, whatever the limit is and
whatever else is bound.  The failure gives the limit and one of the names, as it is written where
it stands; nothing is bound, the browser is not called and nobody is asked. -/
theorem cycle_runs_out (r : Resolver ι) (s : State) (k : Nat) (names : Fin (k + 1) → String)
    (hplain : ∀ i, Plain (names i))
    (hcycle : ∀ i, r.Depends s.store (names i) (names (i + 1))) (i : Fin (k + 1)) :
    ∃ name j, Text.trim name = names j ∧
      r.value (names i) s = (.error (.tooDeep name r.maxDepth), s) := by
  have hall : ∀ name, (∃ j, name = names j) → Plain name := by
    rintro _ ⟨j, rfl⟩
    exact hplain j
  have hnext : ∀ name, (∃ j, name = names j) →
      ∃ next, (∃ j, next = names j) ∧ r.Depends s.store name next := by
    rintro _ ⟨j, rfl⟩
    exact ⟨names (j + 1), ⟨j + 1, rfl⟩, hcycle j⟩
  obtain ⟨name, ⟨j, hj⟩, hrun⟩ := runsOut_valueAt hall hnext (r.maxDepth + 1) (names i) ⟨i, rfl⟩
  exact ⟨name, j, hj, hrun⟩

/-- Three names in a circle: a script, a regular expression and an element. -/
def circleState : State :=
  Session.begin ⟨[⟨.page, Session.pageName, [("script/javascript", "1 + $[ pattern ]"),
    ("pattern/regex/source", "button"), ("pattern/regex/expression", "[a-z]+"),
    ("button/locator", "id"), ("button/locator/id", "$[dryValue:x]$[script]")]⟩], []⟩
    (World.fresh .bare [])

/-- The names in the circle, each before the one it depends on. -/
def circleNames : Fin 3 → String
  | 0 => "script"
  | 1 => "pattern"
  | 2 => "button"

/-- Means with the standard settings and evaluators. -/
def circleResolver : Resolver Interactor :=
  ⟨⟨Settings.standard.interaction, .none⟩, Evaluators.standard, fun _ => none, false,
    Settings.standard.maxDepth⟩

theorem plain_circleNames : ∀ i, Plain (circleNames i)
  | 0 => ⟨by decide +kernel, by decide +kernel, by decide +kernel⟩
  | 1 => ⟨by decide +kernel, by decide +kernel, by decide +kernel⟩
  | 2 => ⟨by decide +kernel, by decide +kernel, by decide +kernel⟩

theorem depends_circleNames : ∀ i,
    circleResolver.Depends circleState.store (circleNames i) (circleNames (i + 1))
  | 0 => by
      have hscan : circleState.store.scan "script" =
          .ok (some (.script "1 + $[ pattern ]")) := rfl
      exact .template hscan rfl (by decide +kernel)
  | 1 => by
      have hscan : circleState.store.scan "pattern" =
          .ok (some (.regex "button" "[a-z]+")) := rfl
      exact .source hscan rfl
  | 2 => by
      have hword : circleState.store.findWord? (Key.locator "button") = some "id" := rfl
      have hexpression : circleState.store.findWord? (Key.expression "button" "id") =
          some "$[dryValue:x]$[script]" := rfl
      exact .locator rfl rfl hword rfl hexpression (by decide +kernel)

/-- A script in a circle fails after sixteen levels. -/
theorem circle_cut_off :
    (∀ i, Plain (circleNames i)) ∧
      (∀ i, circleResolver.Depends circleState.store (circleNames i) (circleNames (i + 1))) ∧
      ∃ name j, Text.trim name = circleNames j ∧
        circleResolver.value "script" circleState =
          (.error (.tooDeep name 16), circleState) :=
  ⟨plain_circleNames, depends_circleNames, cycle_runs_out circleResolver circleState 2 circleNames
    plain_circleNames depends_circleNames 0⟩

end Resolver

end Bindery
