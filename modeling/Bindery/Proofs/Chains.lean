import Bindery.Proofs.Cutoff
import Bindery.Proofs.Cycles
import Bindery.Proofs.Drift

/-!
# Bindery — Proofs — Chains

What the limit on levels allows for, exactly.  A chain of scripts, each of which refers to the next
one, takes two levels for each reference, as the script and the reference in it are a level each
(`settles_valueAt`, `runsOut_inner_of_scripted`).  A chain of elements, each inside the next one,
takes one level for each container (`locatorAt_of_contained`, `locatorAt_of_contained_le`).

A chain that is cut off is cut off on the way down, before anything is asked on the way up: so it
leaves the state as it was.
-/

namespace Bindery

open Locator (Link)
open Template (Segment)

namespace Resolver

variable {ι α β : Type} {r : Resolver ι} {s : State} {σ : ScopeStack}

/-! ### Scripts that refer to each other -/

/-- Names of which each is a script that refers to the next one and to no other, and the last one is
bound to a text. -/
inductive Scripted (σ : ScopeStack) : String → List String → Prop where
  | text {name v : String} : σ.scan name = .ok (some (.literal v)) → Scripted σ name []
  | script {name script next : String} {later : List String} :
      σ.scan name = .ok (some (.script script)) → Template.names (Template.parse script) ≠ [] →
      (∀ other ∈ Template.names (Template.parse script), other = next) → Plain next →
      Scripted σ next later → Scripted σ name (next :: later)

/-- Evaluators that have an answer to every script. -/
def Fluent (e : Evaluators) : Prop :=
  ∀ script w, ∃ v w', e (.script script) w = (.ok v, w')

/-- A lookup gives a value wherever some bindings stand, and leaves them as they are. -/
def Settles (σ : ScopeStack) (a : Lookup α) : Prop :=
  ∀ s : State, s.store = σ → ∃ x t, a s = (.ok x, t) ∧ t.store = σ

namespace Settles

theorem pure (x : α) : Settles σ (pure x : Lookup α) := fun s hs => ⟨x, s, rfl, hs⟩

theorem bind {a : Lookup α} {f : α → Lookup β} (ha : Settles σ a) (hf : ∀ x, Settles σ (f x)) :
    Settles σ (a >>= f) := by
  intro s hs
  obtain ⟨x, t, hx, ht⟩ := ha s hs
  rw [Act.bind_run_ok hx]
  exact hf x t ht

/-- A template is expanded where every name in it is found. -/
theorem expand {value : String → Lookup String} {segments : List Segment}
    (h : ∀ name, Text.trim name ∈ Template.names segments → Settles σ (value name)) :
    Settles σ (expand value segments) := by
  induction segments with
  | nil => exact .pure ""
  | cons segment rest ih =>
      cases segment with
      | text t => exact .bind (ih h) fun _ => .pure _
      | reference name =>
          rw [Resolver.expand]
          split
          next hplaceholder =>
            rw [Template.names_placeholder hplaceholder] at h
            exact .bind (ih h) fun _ => .pure _
          next hplaceholder =>
            rw [Template.names_reference (Bool.eq_false_iff.2 hplaceholder)] at h
            exact .bind (h name List.mem_cons_self) fun _ =>
              .bind (ih fun other hother => h other (List.mem_cons_of_mem _ hother)) fun _ =>
                .pure _

/-- Evaluators that have an answer to every script have one for a name that is a script. -/
theorem ask (h : Fluent r.evaluators) (name script : String) :
    Settles σ (r.ask name .javaScript (.script script)) := by
  unfold Resolver.ask
  split
  · exact .pure _
  · intro s hs
    obtain ⟨v, w, hw⟩ := h script { s.world with asked := .script script :: s.world.asked }
    exact ⟨v, { s with world := w }, Act.failingAs_run_ok _ (by
      rw [State.inWorld_run, Evaluators.consult, Act.bind_run_ok (Act.modify_run _ s.world), hw]),
      hs⟩

end Settles

variable [PageReader ι]

/-- What a script refers to is the first name that is looked up for it. -/
theorem firstName?_eq_head? (segments : List Segment) :
    Template.firstName? segments = (Template.names segments).head? := by
  induction segments with
  | nil => rfl
  | cons segment rest ih =>
      cases segment with
      | text t => exact ih
      | reference name =>
          rw [Template.firstName?, Template.names]
          split
          · exact ih
          · rfl

theorem firstName?_of_names {segments : List Segment} {next : String}
    (hne : Template.names segments ≠ [])
    (hnext : ∀ other ∈ Template.names segments, other = next) :
    Template.firstName? segments = some next := by
  rw [firstName?_eq_head?, List.head?_eq_some_head hne, hnext _ (List.head_mem hne)]

/-- The value of a script, in terms of what it refers to. -/
theorem valueAt_of_script {name script : String} (room : Nat)
    (h : s.store.scan name = .ok (some (.script script))) :
    r.valueAt (room + 1) name s =
      (expand (r.inner room) (Template.parse script) >>= fun text =>
        r.ask name .javaScript (.script (Script.returning text))) s := by
  rw [valueAt_succ, valueStep_of_bound h]
  rfl

/-- Two levels for each reference are enough for a chain of scripts. -/
theorem settles_valueAt (he : Fluent r.evaluators) {name : String} {later : List String}
    (h : Scripted σ name later) :
    ∀ room, 2 * later.length < room → Settles σ (r.valueAt room name) := by
  induction h with
  | text hscan =>
      intro room hroom s hs
      obtain ⟨room, rfl⟩ := Nat.exists_eq_add_one_of_ne_zero (Nat.ne_zero_of_lt hroom)
      rw [← hs] at hscan
      exact ⟨_, s, valueAt_of_literal hscan room, hs⟩
  | script hscan hne hnext hplain _ ih =>
      intro room hroom s hs
      rw [List.length_cons] at hroom
      obtain ⟨room, rfl⟩ : ∃ k, room = k + 2 := ⟨room - 2, by omega⟩
      subst hs
      rw [valueAt_of_script _ hscan]
      refine Settles.bind (.expand fun other hother => ?_) (fun _ => .ask he _ _) s rfl
      rw [inner, written_of_plain hplain (hnext _ hother)]
      exact ih room (by omega)

/-- With fewer levels a chain of scripts is cut off, at the name that they lead to. -/
theorem runsOut_inner_of_scripted {name : String} {later : List String}
    (h : Scripted s.store name later) (hname : Plain name) :
    ∀ room ≤ 2 * later.length + 1, ∀ other, Text.trim other = name →
      RunsOut r (fun cut => (name :: later)[room / 2]? = some cut) s (r.inner room other) := by
  induction h with
  | text hscan =>
      intro room hroom other hother
      rcases Nat.le_one_iff_eq_zero_or_eq_one.1 hroom with rfl | rfl
      · exact .tooDeep (by rw [hother]; rfl)
      · rw [inner, written_of_plain hname hother, valueAt_zero]
        exact .tooDeep (by rw [hname.trimmed]; rfl)
  | script hscan hne hnext hplain _ ih =>
      intro room hroom other hother
      rcases room with _ | _ | room
      · exact .tooDeep (by rw [hother]; rfl)
      · rw [inner, written_of_plain hname hother, valueAt_zero]
        exact .tooDeep (by rw [hname.trimmed]; rfl)
      · rw [List.length_cons] at hroom
        rw [inner, written_of_plain hname hother]
        refine .of_run_eq (valueAt_of_script room hscan) (.bind ?_ _)
        refine .expand (firstName?_of_names hne hnext) fun other hother => ?_
        have hindex : (room + 2) / 2 = room / 2 + 1 := by omega
        simp only [hindex, List.getElem?_cons_succ]
        exact ih hplain room (by omega) other hother

/-! ### Elements inside each other -/

/-- An element has a strategy, which `word` names, and an expression without references. -/
structure Spelled (σ : ScopeStack) (link : Link) (word : String) : Prop where
  located : σ.findWord? (Key.locator link.1) = some word
  strategy : Strategy.read word = .ok link.2.1
  expression : σ.findWord? (Key.expression link.1 word) = some link.2.2
  settled : Template.names (Template.parse link.2.2) = []

/-- Elements of which each is inside the next one, and the last one inside none. -/
inductive Contained (σ : ScopeStack) : Link → List Link → Prop where
  | alone {link : Link} {word : String} : Spelled σ link word →
      σ.findWord? (Key.container link.1 word) = none → Contained σ link []
  | inside {link next : Link} {later : List Link} {word : String} : Spelled σ link word →
      σ.findWord? (Key.container link.1 word) = some next.1 → Contained σ next later →
      Contained σ link (next :: later)

/-- A template in which no name is looked up is taken as it is written. -/
theorem expand_of_names_nil (value : String → Lookup String) (s : State) :
    ∀ segments, Template.names segments = [] →
      expand value segments s = (.ok (Template.write segments), s)
  | [], _ => rfl
  | .text t :: rest, h => by
      rw [expand, Act.bind_run_ok (expand_of_names_nil value s rest h)]
      simp [Template.write, Segment.write]
  | .reference name :: rest, h => by
      rw [expand]
      split
      next hplaceholder =>
        rw [Template.names_placeholder hplaceholder] at h
        rw [Act.bind_run_ok (expand_of_names_nil value s rest h)]
        simp [Template.write]
      next hplaceholder =>
        rw [Template.names_reference (Bool.eq_false_iff.2 hplaceholder)] at h
        cases h

variable {link : Link} {later : List Link}

/-- The locator that a link spells, without a container. -/
def plainLocator (link : Link) : Locator := .plain link.1 link.2.1 link.2.2

theorem chain_within (link : Link) (around : Locator) :
    ((plainLocator link).within around).chain = link :: around.chain := rfl

namespace Spelled

variable {word : String} (h : Spelled s.store link word)
include h

theorem locatorAt (room : Nat) :
    r.locatorAt (room + 1) link.1 s =
      r.inContainer (r.locatorAt room) word (plainLocator link) s := by
  have hexpand := expand_of_names_nil (r.inner room) s _ h.settled
  rw [Template.write_parse] at hexpand
  rw [locatorAt_succ, locatorStep_run h.located h.strategy h.expression hexpand]
  rfl

/-- The locator of an element that is inside no other one. -/
theorem locatorAt_alone (hnone : s.store.findWord? (Key.container link.1 word) = none)
    (room : Nat) : r.locatorAt (room + 1) link.1 s = (.ok (plainLocator link), s) := by
  rw [h.locatorAt]
  exact inContainer_alone hnone

/-- The locator of an element, in terms of that of its container. -/
theorem locatorAt_inside (hlive : r.dryRun = false) {next : String}
    (hsome : s.store.findWord? (Key.container link.1 word) = some next) (room : Nat) :
    r.locatorAt (room + 1) link.1 s =
      (r.locatorAt room next >>= fun around => pure ((plainLocator link).within around)) s := by
  rw [h.locatorAt]
  exact inContainer_inside hlive hsome

end Spelled

/-- A level for each element is enough for elements inside each other. -/
theorem locatorAt_of_contained (hlive : r.dryRun = false) (h : Contained s.store link later) :
    ∀ room, later.length < room →
      ∃ l : Locator, r.locatorAt room link.1 s = (.ok l, s) ∧ l.chain = link :: later := by
  induction h with
  | alone hspelled hnone =>
      intro room hroom
      obtain ⟨room, rfl⟩ := Nat.exists_eq_add_one_of_ne_zero (Nat.ne_zero_of_lt hroom)
      exact ⟨_, hspelled.locatorAt_alone hnone room, rfl⟩
  | inside hspelled hsome _ ih =>
      intro room hroom
      obtain ⟨room, rfl⟩ := Nat.exists_eq_add_one_of_ne_zero (Nat.ne_zero_of_lt hroom)
      obtain ⟨around, haround, hchain⟩ := ih room (Nat.lt_of_succ_lt_succ hroom)
      refine ⟨_, ?_, by rw [chain_within, hchain]⟩
      rw [hspelled.locatorAt_inside hlive hsome, Act.bind_run_ok haround]
      rfl

/-- With fewer levels the container is cut off that the last level is used up for. -/
theorem locatorAt_of_contained_le (hlive : r.dryRun = false) (h : Contained s.store link later) :
    ∀ room ≤ later.length, ∃ cut, (link :: later)[room]? = some cut ∧
      r.locatorAt room link.1 s = (.error (.tooDeep cut.1 r.maxDepth), s) := by
  induction h with
  | alone hspelled hnone =>
      intro room hroom
      obtain rfl := Nat.le_zero.1 hroom
      exact ⟨_, rfl, by rw [locatorAt_zero]; rfl⟩
  | inside hspelled hsome _ ih =>
      intro room hroom
      cases room with
      | zero => exact ⟨_, rfl, by rw [locatorAt_zero]; rfl⟩
      | succ room =>
          obtain ⟨cut, hcut, hrun⟩ := ih room (Nat.le_of_succ_le_succ hroom)
          refine ⟨cut, hcut, ?_⟩
          rw [hspelled.locatorAt_inside hlive hsome, Act.bind_run_error hrun]

/-! ### The limit -/

/-- **The limit on levels is met exactly.**  A name that leads over a number of scripts to a text
has a value if the limit is twice that number, and with any lower limit runs out of levels before
anybody is asked: the failure names the one that the last level was used up for, and the state stays
as it was.  An element inside a number of others has a locator if the limit is that number, which is
made of just these elements in their order, and with any lower limit runs out of levels at the
container one level below the limit. -/
theorem chains_meet_limit (r : Resolver ι) (s : State) (hlive : r.dryRun = false) :
    (∀ name later, Scripted s.store name later →
        (Fluent r.evaluators → 2 * later.length ≤ r.maxDepth →
          ∃ v t, r.value name s = (.ok v, t) ∧ t.store = s.store) ∧
        (r.maxDepth < 2 * later.length → ∃ cut, later[r.maxDepth / 2]? = some (Text.trim cut) ∧
          r.value name s = (.error (.tooDeep cut r.maxDepth), s))) ∧
      ∀ link later, Contained s.store link later →
        (later.length ≤ r.maxDepth →
          ∃ l : Locator, r.locator link.1 s = (.ok l, s) ∧ l.chain = link :: later) ∧
        (r.maxDepth < later.length → ∃ cut, later[r.maxDepth]? = some cut ∧
          r.locator link.1 s = (.error (.tooDeep cut.1 r.maxDepth), s)) := by
  refine ⟨fun name later h => ⟨fun he hlimit => ?_, fun hlimit => ?_⟩,
    fun link later h => ⟨fun hlimit => ?_, fun hlimit => ?_⟩⟩
  · exact settles_valueAt he h _ (Nat.lt_succ_of_le hlimit) s rfl
  · -- the first script is not looked up with `inner`, so its own level is counted here
    cases h with
    | text => exact absurd hlimit (Nat.not_lt_zero _)
    | script hscan hne hnext hplain hlater =>
        rw [List.length_cons] at hlimit
        have hout := runsOut_inner_of_scripted (r := r) hlater hplain r.maxDepth (by omega)
        exact RunsOut.of_run_eq (valueAt_of_script _ hscan)
          (.bind (.expand (firstName?_of_names hne hnext) hout) _)
  · exact locatorAt_of_contained hlive h _ (Nat.lt_succ_of_le hlimit)
  · exact locatorAt_of_contained_le hlive h _ hlimit

/-- Two scripts that lead to a word, and a button in a row of a table on a page. -/
def chainState : State :=
  Session.begin ⟨[⟨.page, Session.pageName, [("report/javascript", "'<$[ greeting ]>'"),
    ("greeting/javascript", "'$[word], $[word]'"), ("word", "hello"),
    ("button/locator", "css selector"), ("button/locator/css selector", "button"),
    ("button/locator/css selector/container", "row"), ("row/locator", "id"),
    ("row/locator/id", "r1"), ("row/locator/id/container", "table"), ("table/locator", "id"),
    ("table/locator/id", "t"), ("table/locator/id/container", "page"),
    ("page/locator", "tag name"), ("page/locator/tag name", "main")]⟩], []⟩
    (World.fresh .bare [])

theorem scripted_greeting : Scripted chainState.store "greeting" ["word"] := by
  have hgreeting : chainState.store.scan "greeting" =
      .ok (some (.script "'$[word], $[word]'")) := rfl
  have hword : chainState.store.scan "word" = .ok (some (.literal "hello")) := rfl
  exact .script hgreeting (by decide +kernel) (by decide +kernel)
    ⟨by decide +kernel, by decide +kernel, by decide +kernel⟩ (.text hword)

theorem scripted_report : Scripted chainState.store "report" ["greeting", "word"] := by
  have hreport : chainState.store.scan "report" =
      .ok (some (.script "'<$[ greeting ]>'")) := rfl
  exact .script hreport (by decide +kernel) (by decide +kernel)
    ⟨by decide +kernel, by decide +kernel, by decide +kernel⟩ scripted_greeting

theorem contained_row : Contained chainState.store ("row", .id, "r1")
    [("table", .id, "t"), ("page", .tagName, "main")] := by
  have hpage : Spelled chainState.store ("page", .tagName, "main") "tag name" :=
    ⟨by decide +kernel, by decide +kernel, by decide +kernel, by decide +kernel⟩
  have htable : Spelled chainState.store ("table", .id, "t") "id" :=
    ⟨by decide +kernel, by decide +kernel, by decide +kernel, by decide +kernel⟩
  have hrow : Spelled chainState.store ("row", .id, "r1") "id" :=
    ⟨by decide +kernel, by decide +kernel, by decide +kernel, by decide +kernel⟩
  exact .inside hrow (by decide +kernel) (.inside htable (by decide +kernel)
    (.alone hpage (by decide +kernel)))

theorem contained_button : Contained chainState.store ("button", .cssSelector, "button")
    [("row", .id, "r1"), ("table", .id, "t"), ("page", .tagName, "main")] := by
  have hbutton : Spelled chainState.store ("button", .cssSelector, "button") "css selector" :=
    ⟨by decide +kernel, by decide +kernel, by decide +kernel, by decide +kernel⟩
  exact .inside hbutton (by decide +kernel) contained_row

theorem fluent_echo : Fluent Evaluators.echo := fun _ w => ⟨_, w, rfl⟩

/-- With a limit of two, the greeting has a value and the row a locator; the report is cut off at
the word, and the button at the page. -/
theorem chains_at_two :
    (∃ v t, twoDeep.value "greeting" chainState = (.ok v, t) ∧ t.store = chainState.store) ∧
      (∃ cut, ["greeting", "word"][1]? = some (Text.trim cut) ∧
        twoDeep.value "report" chainState = (.error (.tooDeep cut 2), chainState)) ∧
      (∃ l : Locator, twoDeep.locator "row" chainState = (.ok l, chainState) ∧
        l.chain = [("row", .id, "r1"), ("table", .id, "t"), ("page", .tagName, "main")]) ∧
      twoDeep.locator "button" chainState = (.error (.tooDeep "page" 2), chainState) := by
  obtain ⟨hnames, helements⟩ := chains_meet_limit twoDeep chainState rfl
  refine ⟨(hnames _ _ scripted_greeting).1 fluent_echo (by decide),
    (hnames _ _ scripted_report).2 (by decide), (helements _ _ contained_row).1 (by decide), ?_⟩
  obtain ⟨cut, hcut, hrun⟩ := (helements _ _ contained_button).2 (by decide)
  cases hcut
  exact hrun

end Resolver

end Bindery
