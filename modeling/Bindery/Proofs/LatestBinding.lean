import Bindery.Proofs.Levels
import Bindery.Proofs.Reframing
import Bindery.Settings.Basic

/-!
# Bindery — Proofs — Latest binding

The binding that was made last gives a name its value.  The entry that a name leads to is the first
one that is not empty and whose key is of a kind for the name (`Entries.leading?`); a key that is
set comes to the front, so it leads if it can.  An entry that leads is passed over by nothing that
is set under another key, unless that could lead itself, and a new scope above it is empty; so it
leads on through any number of such changes (`leading?_run`).

What leads tells how the value is found: the lookup is that of the one binding, and of the
evaluators only those for its kind are of concern to it (`valueStep_evaluators`).  A binding that is
no literal one comes down to a single query of its kind (`question`).
-/

namespace Bindery

/-! ### The entry that leads -/

namespace Entries

variable {name key value : String} {e : Entries}

/-- Whether an entry gives a name a value. -/
def leads (name : String) (p : String × String) : Bool :=
  p.2 ≠ "" ∧ (AttributeKind.ofKey? name p.1).isSome

/-- The first entry that gives a name a value. -/
def leading? (name : String) (e : Entries) : Option (String × String) :=
  List.find? (leads name) e

theorem leading?_append (e later : Entries) :
    leading? name (e ++ later) = (e.leading? name).or (later.leading? name) := by
  rw [leading?, List.find?_append]
  rfl

theorem leading?_cons_of_leads {p : String × String} (h : leads name p = true) :
    leading? name (p :: e) = some p := by
  rw [leading?, List.find?_cons, h]

theorem leading?_cons_of_not {p : String × String} (h : leads name p = false) :
    leading? name (p :: e) = e.leading? name := by
  rw [leading?, List.find?_cons, h]
  rfl

theorem firstOf?_of_leading? {kind : AttributeKind} (h : e.leading? name = some (key, value))
    (hkind : AttributeKind.ofKey? name key = some kind) : e.firstOf? name = some (kind, value) := by
  induction e with
  | nil => cases h
  | cons p rest ih =>
      cases hp : leads name p with
      | true =>
          rw [leading?_cons_of_leads hp] at h
          cases h
          simp only [leads, decide_eq_true_eq] at hp
          exact firstOf?_cons_of_some hp.1 hkind
      | false =>
          rw [leading?_cons_of_not hp] at h
          have hnone : p.2 = "" ∨ AttributeKind.ofKey? name p.1 = none := by
            refine or_iff_not_imp_left.2 ?_
            simpa [leads] using hp
          rw [firstOf?_cons_of_none hnone]
          exact ih h

/-- What leads still does when entries are left out, if it is not among them. -/
theorem leading?_filter {keep : String × String → Bool}
    (h : ∀ p, e.leading? name = some p → keep p = true) :
    leading? name (e.filter keep) = e.leading? name := by
  induction e with
  | nil => rfl
  | cons p rest ih =>
      cases hp : leads name p with
      | true =>
          rw [leading?_cons_of_leads hp] at h ⊢
          rw [List.filter_cons_of_pos (h p rfl), leading?_cons_of_leads hp]
      | false =>
          rw [leading?_cons_of_not hp] at h ⊢
          rw [List.filter_cons]
          split
          · rw [leading?_cons_of_not hp]
            exact ih h
          · exact ih h

end Entries

namespace ScopeStack

variable {name key value : String} {s : ScopeStack}

/-- The entry that gives a name its value. -/
def leading? (name : String) (s : ScopeStack) : Option (String × String) :=
  s.entries.leading? name

theorem entries_eq_current (s : ScopeStack) :
    s.entries = s.current.entries ++ s.scopes.tail.flatMap Scope.entries := by
  rw [entries, scopes_eq_current, List.flatMap_cons, List.tail_cons]

theorem entries_set (key value : String) (s : ScopeStack) :
    (s.set key value).entries = (key, value) ::
      (s.current.entries.filter (fun p => p.1 ≠ key) ++ s.scopes.tail.flatMap Scope.entries) := by
  rw [entries, scopes_set]
  rfl

/-- A key that is set leads, if it can. -/
theorem leading?_set_self {kind : AttributeKind} (hkind : AttributeKind.ofKey? name key = some kind)
    (hvalue : value ≠ "") (s : ScopeStack) :
    (s.set key value).leading? name = some (key, value) := by
  have hleads : Entries.leads name (key, value) = true := by simp [Entries.leads, hvalue, hkind]
  rw [leading?, entries_set]
  exact Entries.leading?_cons_of_leads hleads

/-- An entry that leads does so when another key is set that cannot lead. -/
theorem leading?_set_other {k v : String} (h : s.leading? name = some (key, value)) (hk : k ≠ key)
    (hv : v = "" ∨ AttributeKind.ofKey? name k = none) :
    (s.set k v).leading? name = some (key, value) := by
  have hleads : Entries.leads name (k, v) = false := by
    rcases hv with hv | hv <;> simp [Entries.leads, hv]
  rw [leading?, entries_eq_current, Entries.leading?_append] at h
  -- setting the key takes its old entry away, and that is not the one that leads
  rw [leading?, entries_set, Entries.leading?_cons_of_not hleads, Entries.leading?_append,
    Entries.leading?_filter, h]
  intro p hp
  rw [hp] at h
  cases h
  simpa using Ne.symm hk

theorem leading?_push (kind : ScopeKind) (scope : String) (s : ScopeStack) :
    (s.push kind scope).leading? name = s.leading? name := rfl

/-- A change that lets an entry lead a name on: a new scope, or another key that is set and does not
lead. -/
def Change.Spares (name key : String) : Change → Prop
  | .push _ _ => True
  | .set k v => AttributeKind.ofKey? name k = none ∨ (v = "" ∧ k ≠ key)
  | _ => False

theorem leading?_change {kind : AttributeKind} (hkind : AttributeKind.ofKey? name key = some kind)
    {c : Change} (hc : c.Spares name key) (h : s.leading? name = some (key, value)) :
    (s.change c).leading? name = some (key, value) := by
  cases c with
  | push k scope => exact (leading?_push k scope s).trans h
  | set k v =>
      rcases hc with hnone | ⟨hv, hk⟩
      · have hk : k ≠ key := by
          rintro rfl
          rw [hkind] at hnone
          cases hnone
        exact leading?_set_other h hk (.inr hnone)
      · exact leading?_set_other h hk (.inl hv)
  | _ => cases hc

theorem leading?_run {kind : AttributeKind} (hkind : AttributeKind.ofKey? name key = some kind)
    {changes : List Change} (hchanges : ∀ c ∈ changes, c.Spares name key)
    (h : s.leading? name = some (key, value)) :
    (s.run changes).leading? name = some (key, value) := by
  induction changes generalizing s with
  | nil => exact h
  | cons c changes ih =>
      obtain ⟨hc, hrest⟩ := List.forall_mem_cons.1 hchanges
      exact ih hrest (leading?_change hkind hc h)

end ScopeStack

/-! ### The evaluator that is asked -/

/-- The kind of binding that a query is for. -/
def Query.kind : Query → AttributeKind
  | .script _ => .javaScript
  | .xpath .. => .xpath
  | .regex .. => .regex
  | .jsonPath .. => .jsonPath
  | .process _ => .process
  | .file _ => .file

namespace BoundAttribute

/-- The binding that a value alone is, for the kinds that have no further field. -/
def ofValue? (value : String) : AttributeKind → Option BoundAttribute
  | .literal | .text => some (.literal value)
  | .javaScript => some (.script value)
  | .process => some (.process value)
  | .file => some (.file value)
  | .xpath | .regex | .jsonPath => none

end BoundAttribute

/-- The kind of the binding that is made of an entry of a kind: a text is a literal one. -/
def AttributeKind.bound : AttributeKind → AttributeKind
  | .text => .literal
  | kind => kind

/-- Where the binding is a literal one, it is the value itself. -/
theorem BoundAttribute.ofValue?_of_literal {kind : AttributeKind} (h : kind.bound = .literal)
    (v : String) : ofValue? v kind = some (.literal v) := by
  cases kind <;> first | rfl | cases h

theorem AttributeKind.bound_of_ne_literal {kind : AttributeKind} (h : kind.bound ≠ .literal) :
    kind.bound = kind := by
  cases kind with
  | text => exact absurd rfl h
  | _ => rfl

theorem Query.kind_eq_of_bound {q : Query} {kind : AttributeKind} (h : q.kind = kind.bound) :
    q.kind = kind := by
  cases kind with
  | text => cases q <;> cases h
  | _ => exact h

namespace ScopeStack

variable {name value : String} {kind : AttributeKind} {s : ScopeStack}

theorem attributeOf_of_ofValue? {b : BoundAttribute}
    (h : BoundAttribute.ofValue? value kind = some b) : s.attributeOf name value kind = .ok b := by
  cases kind <;> cases h <;> rfl

/-- A binding is of the kind that its entry tells. -/
theorem kind_of_attributeOf {b : BoundAttribute} (h : s.attributeOf name value kind = .ok b) :
    b.kind = kind.bound := by
  have hfields {first second : String} {f : String → String → BoundAttribute}
      (hbuilt : (do return f (← s.field first) (← s.field second)) = Except.ok b) :
      ∃ v w, b = f v w := by
    cases hfirst : s.field first with
    | error g => simp [hfirst, bind, Except.bind] at hbuilt
    | ok v =>
        cases hsecond : s.field second with
        | error g => simp [hfirst, hsecond, bind, Except.bind] at hbuilt
        | ok w =>
            simp only [hfirst, hsecond, bind, Except.bind, pure, Except.pure] at hbuilt
            cases hbuilt
            exact ⟨v, w, rfl⟩
  cases kind with
  | xpath =>
      obtain ⟨v, w, rfl⟩ := hfields (f := fun v w => .xpath v w _) h
      rfl
  | regex =>
      obtain ⟨v, w, rfl⟩ := hfields h
      rfl
  | jsonPath =>
      obtain ⟨v, w, rfl⟩ := hfields h
      rfl
  | _ =>
      cases h
      rfl

end ScopeStack

namespace Resolver

variable {ι : Type} {r : Resolver ι} {value source : String → Lookup String} {name : String}

theorem consult_congr {e e' : Evaluators} {q : Query} (h : e q = e' q) :
    Evaluators.consult e q = Evaluators.consult e' q := by
  rw [Evaluators.consult, h, Evaluators.consult]

/-- What is asked of evaluators that answer the query alike is the same. -/
theorem ask_evaluators {e : Evaluators} {q : Query} (h : e q = r.evaluators q) (name : String)
    (kind : AttributeKind) :
    ({ r with evaluators := e } : Resolver ι).ask name kind q = r.ask name kind q := by
  rw [ask, ask, consult_congr h]

theorem askFile_evaluators {e : Evaluators} {path : String}
    (h : e (.file path) = r.evaluators (.file path)) (name : String) :
    ({ r with evaluators := e } : Resolver ι).askFile name path = r.askFile name path := by
  rw [askFile, askFile, consult_congr h]

/-- Of the evaluators only those for its kind are of concern to a binding. -/
theorem evaluate_evaluators {e : Evaluators} {b : BoundAttribute}
    (h : ∀ q : Query, q.kind = b.kind → e q = r.evaluators q) :
    ({ r with evaluators := e } : Resolver ι).evaluate value source name b =
      r.evaluate value source name b := by
  cases b with
  | literal v => rfl
  | file p =>
      have hask (path : String) := askFile_evaluators (h (.file path) rfl) name
      simp only [evaluate, hask]
  | script s =>
      have hask (script : String) := ask_evaluators (h (.script script) rfl) name .javaScript
      simp only [evaluate, hask]
  | xpath s x t =>
      have hask (x s t) := ask_evaluators (h (.xpath x s t) rfl) name .xpath
      simp only [evaluate, hask]
  | regex s x =>
      have hask (x s) := ask_evaluators (h (.regex x s) rfl) name .regex
      simp only [evaluate, hask]
  | jsonPath s x =>
      have hask (x s) := ask_evaluators (h (.jsonPath x s) rfl) name .jsonPath
      simp only [evaluate, hask]
  | process c =>
      have hask (c) := ask_evaluators (h (.process c) rfl) name .process
      simp only [evaluate, hask]

/-- The query that a binding comes down to if it is no literal one. -/
def question (value source : String → Lookup String) (name : String) :
    (b : BoundAttribute) → b.kind ≠ .literal → Lookup { q : Query // q.kind = b.kind }
  | .literal _, h => absurd rfl h
  | .script s, _ => do
    let script ← expand value (Template.parse s)
    return ⟨.script (Script.returning script), rfl⟩
  | .xpath s x t, _ => do
    let text ← source (← expand value (Template.parse s))
    let expression ← expand value (Template.parse x)
    let word ← expand value (Template.parse t)
    let target ← Act.ofExcept ((TargetType.read word).mapError fun word =>
      .evaluation name AttributeKind.xpath.word (.unknownTarget word))
    return ⟨.xpath expression text target, rfl⟩
  | .regex s x, _ => do
    let text ← source (← expand value (Template.parse s))
    let expression ← expand value (Template.parse x)
    return ⟨.regex expression text, rfl⟩
  | .jsonPath s x, _ => do
    let text ← source (← expand value (Template.parse s))
    let expression ← expand value (Template.parse x)
    return ⟨.jsonPath expression text, rfl⟩
  | .process c, _ => do
    let command ← expand value (Template.parse c)
    return ⟨.process command, rfl⟩
  | .file p, _ => do
    let path ← expand value (Template.parse p)
    return ⟨.file path, rfl⟩

/-- Outside of a dry run a file is asked for like anything else. -/
theorem askFile_eq_ask (hlive : r.dryRun = false) (name path : String) :
    r.askFile name path = r.ask name .file (.file path) := by
  rw [askFile, ask, if_neg (by simp [hlive])]

/-- Outside of a dry run, evaluating a binding that is no literal one is asking the query that it
comes down to. -/
theorem evaluate_eq_question (hlive : r.dryRun = false) (value source : String → Lookup String)
    (name : String) (b : BoundAttribute) (h : b.kind ≠ .literal) :
    r.evaluate value source name b =
      question value source name b h >>= fun q => r.ask name b.kind q.1 := by
  cases b with
  | literal v => exact absurd rfl h
  | xpath s x t =>
      simp only [evaluate, question, bind_assoc]
      refine bind_congr fun _ => bind_congr fun _ => bind_congr fun _ => bind_congr fun word => ?_
      cases TargetType.read word <;> rfl
  | file p =>
      simp only [evaluate, question, bind_assoc, pure_bind, askFile_eq_ask hlive]
      rfl
  | _ =>
      simp only [evaluate, question, bind_assoc, pure_bind]
      rfl

/-- What is asked for a binding that is no literal one does not depend on the evaluators. -/
theorem exists_question (hlive : r.dryRun = false) {b : BoundAttribute} {kind : AttributeKind}
    (hb : b.kind = kind) (hkind : kind ≠ .literal) (value source : String → Lookup String)
    (name : String) :
    ∃ question : Lookup { q : Query // q.kind = kind }, ∀ e : Evaluators,
      ({ r with evaluators := e } : Resolver ι).evaluate value source name b =
        question >>= fun q => ({ r with evaluators := e } : Resolver ι).ask name kind q.1 := by
  subst hb
  exact ⟨question value source name b hkind,
    fun e => evaluate_eq_question (r := { r with evaluators := e }) hlive value source name b hkind⟩

variable [PageReader ι]

/-- Of the evaluators only those for its kind are of concern to a name that has a binding. -/
theorem valueStep_evaluators {e : Evaluators} {locator : String → Lookup Locator} {s : State}
    {entry : String} {kind : AttributeKind}
    (hscan : s.store.scan name = (s.store.attributeOf name entry kind).map some)
    (h : ∀ q : Query, q.kind = kind → e q = r.evaluators q) :
    ({ r with evaluators := e } : Resolver ι).valueStep value source locator name s =
      r.valueStep value source locator name s := by
  cases hbinding : s.store.attributeOf name entry kind with
  | error f =>
      rw [hbinding] at hscan
      rw [valueStep_of_fault hscan, valueStep_of_fault hscan]
  | ok b =>
      rw [hbinding] at hscan
      have hkind := ScopeStack.kind_of_attributeOf hbinding
      rw [valueStep_of_bound hscan, valueStep_of_bound hscan,
        evaluate_evaluators fun q hq => h q (Query.kind_eq_of_bound (hq.trans hkind))]

/-- **The latest binding wins.**  After a key that is of a kind for a name was set to a value that
is not empty, in any stack of scopes, and after any scopes that were pushed then and keys that were
set, if they are of no kind for the name or were set to nothing and are not the key itself, the name
has the value and the kind for its first entry.  So its binding is of that kind, and the value
itself where a kind has no other field; its value is what evaluating this binding gives, and
evaluators for other kinds have no part in it, whatever the lookups of references in it do.

A literal is its own value, and nothing changes.  A binding of another kind comes down to a query of
that kind, which is asked once and last of all unless this is a dry run; what the query is does not
depend on the evaluators, other than through the lookups of references. -/
theorem latest_binding_wins {name key v : String} {kind : AttributeKind}
    (hkind : AttributeKind.ofKey? name key = some kind) (hv : v ≠ "") (stack : ScopeStack)
    {later : List ScopeStack.Change} (hlater : ∀ c ∈ later, c.Spares name key) {s : ScopeStack}
    (hs : s = (stack.set key v).run later) :
    s.firstOf? name = some (kind, v) ∧
    (∀ b, s.scan name = .ok (some b) → b.kind = kind.bound) ∧
    (∀ b, BoundAttribute.ofValue? v kind = some b → s.scan name = .ok (some b)) ∧
    ∀ (r : Resolver ι) (x : State), x.store = s →
      (∀ b, s.attributeOf name v kind = .ok b → r.value name x =
        r.evaluate (r.inner r.maxDepth) (r.innerSource r.maxDepth) name b x) ∧
      (∀ f, s.attributeOf name v kind = .error f → r.value name x = (.error f, x)) ∧
      (∀ e : Evaluators, (∀ q, q.kind = kind → e q = r.evaluators q) → r.value name x =
        ({ r with evaluators := e } : Resolver ι).valueStep (r.inner r.maxDepth)
          (r.innerSource r.maxDepth) (r.locatorAt r.maxDepth) name x) ∧
      (kind.bound = .literal → r.value name x = (.ok v, x)) ∧
      (r.dryRun = false → kind.bound ≠ .literal → ∀ b, s.attributeOf name v kind = .ok b →
        ∃ question : Lookup { q : Query // q.kind = kind }, ∀ e : Evaluators,
          ({ r with evaluators := e } : Resolver ι).valueStep (r.inner r.maxDepth)
              (r.innerSource r.maxDepth) (r.locatorAt r.maxDepth) name x =
            (question >>= fun q =>
              ({ r with evaluators := e } : Resolver ι).ask name kind q.1) x) := by
  have hleading : s.leading? name = some (key, v) :=
    hs ▸ ScopeStack.leading?_run hkind hlater (ScopeStack.leading?_set_self hkind hv stack)
  have hfirst : s.firstOf? name = some (kind, v) := by
    rw [ScopeStack.firstOf?_eq]
    exact Entries.firstOf?_of_leading? hleading hkind
  have hscan : s.scan name = (s.attributeOf name v kind).map some := by
    rw [ScopeStack.scan, hfirst]
  have hbound {b : BoundAttribute} (hb : s.attributeOf name v kind = .ok b) :
      s.scan name = .ok (some b) := by
    rw [hscan, hb]
    rfl
  refine ⟨hfirst, fun b hb => ?_, fun b hb => hbound (ScopeStack.attributeOf_of_ofValue? hb),
    fun r x hx => ?_⟩
  · rw [hscan] at hb
    cases hattribute : s.attributeOf name v kind with
    | error f =>
        rw [hattribute] at hb
        cases hb
    | ok b' =>
        rw [hattribute] at hb
        cases hb
        exact ScopeStack.kind_of_attributeOf hattribute
  · subst hx
    rw [value, valueAt_succ]
    refine ⟨fun b hb => valueStep_of_bound (hbound hb), fun f hf => ?_,
      fun e he => (valueStep_evaluators hscan he).symm, fun hliteral => ?_,
      fun hlive hasking b hb => ?_⟩
    · exact valueStep_of_fault (by rw [hscan, hf]; rfl)
    · have hvalue := BoundAttribute.ofValue?_of_literal hliteral v
      exact valueStep_of_bound (hbound (ScopeStack.attributeOf_of_ofValue? hvalue))
    · have hsame := AttributeKind.bound_of_ne_literal hasking
      obtain ⟨question, hquestion⟩ := exists_question hlive
        ((ScopeStack.kind_of_attributeOf hb).trans hsame) (hsame ▸ hasking)
        (r.inner r.maxDepth) (r.innerSource r.maxDepth) name
      exact ⟨question, fun e => (valueStep_of_bound (hbound hb)).trans (congrFun (hquestion e) x)⟩

/-- Changes after which the script of a title still is its latest binding: its text is emptied in a
scope of its own, and something else is bound. -/
def titleChanges : List ScopeStack.Change :=
  [.push .feature "shop", .set "title/text" "", .set "titles" "none"]

/-- Bindings for a title: a text, then a script, and the changes after that. -/
def titleStore : ScopeStack :=
  ((ScopeStack.empty.set "title/text" "Shop").set "title/javascript" "document.title").run
    titleChanges

/-- Means to find the title out, with evaluators that say what they are asked. -/
def titleResolver : Resolver Interactor :=
  ⟨⟨Settings.standard.interaction, .none⟩, Evaluators.echo, fun _ => none, false, 16⟩

/-- The title is what its script gives, and nothing else is asked, although a text was bound for it
as well. -/
theorem title_is_script :
    AttributeKind.ofKey? "title" "title/javascript" = some .javaScript ∧
    (∀ c ∈ titleChanges, c.Spares "title" "title/javascript") ∧
    titleStore.scan "title" = .ok (some (.script "document.title")) ∧
    (titleResolver.value "title" ⟨titleStore, [], .fresh .bare [], []⟩).1.toOption =
      some "evaluated(return document.title)" ∧
    (titleResolver.value "title" ⟨titleStore, [], .fresh .bare [], []⟩).2.world.asked =
      [.script "return document.title"] := by
  have hkind : AttributeKind.ofKey? "title" "title/javascript" = some .javaScript := by
    decide +kernel
  have hother : AttributeKind.ofKey? "title" "titles" = none := by decide +kernel
  have hlater : ∀ c ∈ titleChanges, c.Spares "title" "title/javascript" :=
    List.forall_mem_cons.2 ⟨trivial, List.forall_mem_cons.2
      ⟨.inr ⟨rfl, by decide⟩, List.forall_mem_singleton.2 (.inl hother)⟩⟩
  have hwins := latest_binding_wins (ι := Interactor) (v := "document.title") hkind (by decide)
    (ScopeStack.empty.set "title/text" "Shop") hlater (s := titleStore) rfl
  obtain ⟨-, -, hscan, hvalue⟩ := hwins
  obtain ⟨hvalue, -⟩ := hvalue titleResolver ⟨titleStore, [], .fresh .bare [], []⟩ rfl
  rw [hvalue _ rfl]
  exact ⟨hkind, hlater, hscan _ rfl, by decide +kernel, by decide +kernel⟩

end Resolver

end Bindery
