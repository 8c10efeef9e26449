import Bindery.Proofs.EmptyBindings
import Bindery.Proofs.Expressions

/-!
# Bindery — Proofs — Missing

What a lookup that fails says is missing.  The locator of an element fails for lack of a key of the
element itself, or of one of the containers around it, and says which (`ScopeStack.Astray`).  The
value of a name does not say so: it is said that the name is unbound, whichever of these keys was
lacking.  Then nothing gave the name a value in the first place either (`Resolver.Unfound`).

That a name is unbound may be found out deep inside of a lookup, where the bindings are others than
those it began with.  But what it leaves of them has every text that it began with
(`ScopeStack.Reframed`), so the name was unbound from the beginning (`Frames.told`).
-/

namespace Bindery

open Template (Segment)

/-! ### Elements in containers -/

namespace ScopeStack

/-- An element that has a strategy and an expression is inside another one. -/
inductive Around (σ : ScopeStack) (element container : String) : Prop where
  | intro {word template : String} {strategy : Strategy} :
      σ.findWord? (Key.locator element) = some word → Strategy.read word = .ok strategy →
      σ.findWord? (Key.expression element word) = some template →
      σ.findWord? (Key.container element word) = some container → Around σ element container

/-- An element or one of the containers around it lacks a key that it cannot be found without. -/
def Astray (σ : ScopeStack) (element other key : String) : Prop :=
  Relation.ReflTransGen σ.Around element other ∧ σ.Lacks other key

/-- An element that is inside no other one lacks a key of its own. -/
theorem Astray.lacks {σ : ScopeStack} {element other key : String}
    (h : σ.Astray element other key) (halone : ∀ container, ¬ σ.Around element container) :
    σ.Lacks element key := by
  obtain ⟨hpath, hlacks⟩ := h
  rcases hpath.cases_head with rfl | ⟨container, haround, -⟩
  · exact hlacks
  · exact absurd haround (halone container)

theorem Astray.head {σ : ScopeStack} {element container other key : String}
    (h : σ.Around element container) (hastray : σ.Astray container other key) :
    σ.Astray element other key :=
  ⟨.head h hastray.1, hastray.2⟩

theorem mem_entries_unaddressed_iff {s : ScopeStack} {p : String × String} (hv : p.2 ≠ "") :
    p ∈ s.unaddressed.entries ↔
      (p ∈ s.current.entries ∧ p.1 ≠ Key.currentUrl) ∨
        ∃ scope ∈ s.scopes.tail, p ∈ scope.entries := by
  rw [mem_entries_iff, unaddressed, tail_scopes_set, current_set, Scope.set, Entries.mem_put_iff]
  refine or_congr_left ⟨fun h => h.resolve_left ?_, .inr⟩
  rintro rfl
  exact hv rfl

/-- A name that has no binding has none without the address of the page. -/
theorem scan_unaddressed_of_none {s : ScopeStack} {name : String} (h : s.scan name = .ok none) :
    s.unaddressed.scan name = .ok none := by
  rw [scan_eq_none_iff, firstOf?_eq_none_iff] at h ⊢
  intro p hp hv
  exact h p (mem_entries_iff.2 (((mem_entries_unaddressed_iff hv).1 hp).imp_left And.left)) hv

/-- A name that has no binding without the address of the page has none at all, or is the name of
that address and has it for its value. -/
theorem scan_of_unaddressed_none {s : ScopeStack} {name : String}
    (h : s.unaddressed.scan name = .ok none) :
    s.scan name = .ok none ∨ ∃ v, s.scan name = .ok (some (.literal v)) := by
  rw [scan_eq_none_iff, firstOf?_eq_none_iff] at h
  cases hfirst : s.firstOf? name with
  | none => exact .inl (scan_eq_none_iff.2 hfirst)
  | some found =>
      obtain ⟨kind, v⟩ := found
      obtain ⟨key, hmem, hv, hkind⟩ := mem_entries_of_firstOf? hfirst
      refine .inr ⟨v, scan_of_isLiteral ?_ hfirst⟩
      -- the entry that was found is that of the address, and of no other name
      by_cases hkey : key = Key.currentUrl
      · rw [hkey] at hkind
        by_cases hname : name = Key.currentUrl
        · rw [hname, AttributeKind.ofKey?_self] at hkind
          cases hkind
          rfl
        · rw [AttributeKind.ofKey?_currentUrl hname] at hkind
          cases hkind
      · have hmem := (mem_entries_iff.1 hmem).imp_left fun hcurrent => And.intro hcurrent hkey
        rw [h _ ((mem_entries_unaddressed_iff hv).2 hmem) hv] at hkind
        cases hkind

/-- What has no binding after lookups had none before them. -/
theorem Reframed.scan_unaddressed {touched : List String} {s t : ScopeStack}
    (h : Reframed touched s t) {name : String} (hnone : t.unaddressed.scan name = .ok none) :
    s.unaddressed.scan name = .ok none := by
  rw [scan_eq_none_iff, firstOf?_eq_none_iff] at hnone ⊢
  intro p hp hv
  refine hnone p ((mem_entries_unaddressed_iff hv).2 ?_) hv
  rw [h.outer]
  exact ((mem_entries_unaddressed_iff hv).1 hp).imp_left fun ⟨hp, hurl⟩ =>
    ⟨h.kept p hp hv hurl, hurl⟩

end ScopeStack

/-- What fails in the world may be taken for another failure there or outside of it. -/
theorem State.inWorld_failingAs {ε ε' α : Type} (a : World.Act ε α) (g : ε → ε') :
    State.inWorld (a.failingAs g) = (State.inWorld a).failingAs g := by
  funext s
  rcases h : a s.world with ⟨e | x, w⟩
  · rw [State.inWorld_run, Act.failingAs_run_error g h]
    exact (Act.failingAs_run_error g (by rw [State.inWorld_run, h])).symm
  · rw [State.inWorld_run, Act.failingAs_run_ok g h]
    exact (Act.failingAs_run_ok g (by rw [State.inWorld_run, h])).symm

namespace Resolver

variable {ι α β : Type} [PageReader ι] {r : Resolver ι} {σ : ScopeStack} {s t u : State}
  {f : ResolutionFault}

/-! ### What failures tell -/

/-- Nothing gives a name a value: no binding but perhaps the address of the page, no default and no
element. -/
structure Unfound (r : Resolver ι) (σ : ScopeStack) (name : String) : Prop where
  unbound : σ.unaddressed.scan name = .ok none
  default : r.defaults name = none
  astray : ∃ other key, σ.Astray name other key

/-- A name that is said to be unbound is, and no element is said to have no locator. -/
def Told (r : Resolver ι) (σ : ScopeStack) : ResolutionFault → Prop
  | .unbound name => '/' ∉ name.toList → r.Unfound σ name
  | .locatorUnbound .. => False
  | _ => True

/-- What is told where the locator of an element is looked up, too: it lacks what is said to be
missing. -/
def ToldOf (r : Resolver ι) (σ : ScopeStack) (element : String) (f : ResolutionFault) : Prop :=
  r.Told σ f ∨ ∃ other key, f = .locatorUnbound other key ∧ σ.Astray element other key

theorem Frames.around (h : r.Frames s t) {element container : String}
    (ht : t.store.Around element container) : s.store.Around element container := by
  obtain ⟨hword, hread, htemplate, hcontainer⟩ := ht
  rw [h.findWord?_eq (Key.settled_locator element)] at hword
  rw [h.findWord?_eq (Key.settled_expression hread element)] at htemplate
  rw [h.findWord?_eq (Key.settled_container element _)] at hcontainer
  exact .intro hword hread htemplate hcontainer

theorem Frames.astray (h : r.Frames s t) {element other key : String}
    (ht : t.store.Astray element other key) : s.store.Astray element other key :=
  ⟨Relation.ReflTransGen.mono (fun _ _ => h.around) _ _ ht.1, h.lacks_iff.1 ht.2⟩

/-- What is told of the bindings that lookups left is told of those they began with. -/
theorem Frames.told (h : r.Frames s t) (ht : r.Told t.store f) : r.Told s.store f := by
  cases f with
  | unbound name =>
      intro hname
      obtain ⟨hunbound, hdefault, other, key, hastray⟩ := ht hname
      have hastray := h.astray hastray
      obtain ⟨_, -, -, hframed⟩ := h
      exact ⟨hframed.scan_unaddressed hunbound, hdefault, other, key, hastray⟩
  | _ => exact ht

theorem Frames.toldOf (h : r.Frames s t) {element : String} (ht : r.ToldOf t.store element f) :
    r.ToldOf s.store element f :=
  ht.imp h.told fun ⟨other, key, hf, hastray⟩ => ⟨other, key, hf, h.astray hastray⟩

/-! ### Lookups that tell -/

/-- A lookup leaves the bindings framed, and its failures tell what is missing. -/
structure Telling (r : Resolver ι) (a : Lookup α) : Prop where
  framed : Act.Within r.frame a
  told : ∀ {s f t}, a s = (.error f, t) → r.Told s.store f

namespace Telling

theorem pure (x : α) : Telling r (pure x : Lookup α) := ⟨.pure x, fun h => by cases h⟩

theorem throw (h : ∀ σ, r.Told σ f) : Telling r (throw f : Lookup α) :=
  ⟨.throw f, fun h' => by cases h'; exact h _⟩

theorem bind {a : Lookup α} {g : α → Lookup β} (ha : Telling r a) (hg : ∀ x, Telling r (g x)) :
    Telling r (a >>= g) where
  framed := .bind ha.framed fun x => (hg x).framed
  told := fun h => by
    rcases Act.of_bind_error h with h | ⟨x, t, hx, h⟩
    · exact ha.told h
    · exact (frames_of_within ha.framed hx).told ((hg x).told h)

theorem ite {c : Prop} [Decidable c] {a b : Lookup α} (ha : Telling r a) (hb : Telling r b) :
    Telling r (if c then a else b) := by
  split
  · exact ha
  · exact hb

/-- What happens in the world changes no bindings, and what it fails with is taken for something
that tells nothing of them. -/
theorem inWorld {ε : Type} (a : World.Act ε α) {g : ε → ResolutionFault}
    (hg : ∀ e σ, r.Told σ (g e)) : Telling r ((State.inWorld a).failingAs g) where
  framed := .failingAs g (.inPart (.any a) (fun s _ _ => .of_world (.refl r s))
    fun s _ _ => .of_world (.refl r s))
  told := fun h => by
    obtain ⟨d, rfl, -⟩ := Act.of_failingAs_error h
    exact hg d _

theorem expand {value : String → Lookup String} (h : ∀ name, Telling r (value name)) :
    ∀ segments, Telling r (expand value segments)
  | [] => .pure _
  | .text s :: rest => .bind (expand h rest) fun _ => .pure _
  | .reference name :: rest => by
      rw [Resolver.expand]
      exact .ite (.bind (expand h rest) fun _ => .pure _)
        (.bind (h name) fun _ => .bind (expand h rest) fun _ => .pure _)

end Telling

/-! ### Values -/

omit [PageReader ι] in
theorem told_interaction (e : InteractionFault) (σ : ScopeStack) : r.Told σ (.interaction e) :=
  trivial

omit [PageReader ι] in
theorem told_ofEvaluation (name kind : String) (e : EvaluationFault) (σ : ScopeStack) :
    r.Told σ (.ofEvaluation name kind e) := by
  cases e <;> exact trivial

theorem Telling.tooDeep (name : String) : Telling r (r.tooDeep name : Lookup α) :=
  .throw fun _ => trivial

theorem Telling.reference {value : String → Lookup String} {name : String}
    (hv : Telling r (value name)) : Telling r (r.reference value name) := by
  have hpage : Telling r r.pageUrl :=
    .ite (.pure _) (State.inWorld_failingAs _ _ ▸ .inWorld _ told_interaction)
  have hurl : Telling r r.bindCurrentUrl := by
    refine ⟨permits_frame.url, fun h => ?_⟩
    rcases Act.of_bind_error h with h | ⟨_, _, _, h⟩
    · exact hpage.told h
    · cases h
  unfold Resolver.reference
  exact .ite (.bind hurl fun _ => hv) hv

theorem Telling.ask (name : String) (kind : AttributeKind) (q : Query) :
    Telling r (r.ask name kind q) :=
  .ite (.pure _) (.inWorld _ (told_ofEvaluation name _))

theorem Telling.askFile (name path : String) : Telling r (r.askFile name path) :=
  .inWorld _ (told_ofEvaluation name _)

section

variable {value source : String → Lookup String} {locator : String → Lookup Locator}

theorem Telling.evaluate (hv : ∀ name, Telling r (value name))
    (hs : ∀ name, Telling r (source name)) (name : String) (b : BoundAttribute) :
    Telling r (r.evaluate value source name b) := by
  have expanded (template : String) :
      Telling r (Resolver.expand value (Template.parse template)) := .expand hv _
  cases b with
  | literal v => exact .pure v
  | script s => exact .bind (expanded s) fun _ => .ask _ _ _
  | xpath s e t =>
      refine .bind (expanded s) fun _ => .bind (hs _) fun _ => .bind (expanded e) fun _ =>
        .bind (expanded t) fun word => ?_
      cases TargetType.read word with
      | error w => exact .throw fun _ => trivial
      | ok target => exact .ask _ _ _
  | regex s e | jsonPath s e =>
      exact .bind (expanded s) fun _ => .bind (hs _) fun _ => .bind (expanded e) fun _ =>
        .ask _ _ _
  | process c => exact .bind (expanded c) fun _ => .ask _ _ _
  | file p => exact .bind (expanded p) fun _ => .askFile _ _

/-- A name without a binding, a default and an element is unbound; that its element cannot be found
is taken for that. -/
theorem told_unboundValue {name : String} (hscan : s.store.scan name = .ok none)
    (hl : ∀ {f t}, locator name s = (.error f, t) → r.ToldOf s.store name f)
    (h : r.unboundValue locator name s = (.error f, t)) : r.Told s.store f := by
  unfold unboundValue at h
  cases hdefault : r.defaults name with
  | some v => rw [hdefault] at h; cases h
  | none =>
      simp only [hdefault] at h
      rcases Act.of_bind_error h with h | ⟨l, u, -, h⟩
      · obtain ⟨d, rfl, hd⟩ := Act.of_failingAs_error h
        rcases hl hd with htold | ⟨other, key, rfl, hastray⟩
        · cases d with
          | locatorUnbound => exact htold.elim
          | _ => exact htold
        · exact fun _ =>
            ⟨ScopeStack.scan_unaddressed_of_none hscan, hdefault, other, key, hastray⟩
      · -- reading the text fails with what the page fails with
        rw [liveText_run] at h
        split at h
        · cases h
        · split at h <;> cases h
          exact trivial

theorem told_valueStep {name : String} (hv : ∀ name, Telling r (value name))
    (hs : ∀ name, Telling r (source name))
    (hl : ∀ {f t}, locator name s = (.error f, t) → r.ToldOf s.store name f)
    (h : r.valueStep value source locator name s = (.error f, t)) : r.Told s.store f := by
  cases hscan : s.store.scan name with
  | error e =>
      rw [valueStep_of_fault hscan] at h
      cases h
      obtain ⟨kind, fieldKey, field, hkind, rfl⟩ := ScopeStack.of_scan_error hscan
      exact fun hslash => absurd (ScopeStack.slash_mem_of_fieldKey? hkind field) hslash
  | ok binding =>
      cases binding with
      | some b =>
          rw [valueStep_of_bound hscan] at h
          exact (Telling.evaluate hv hs name b).told h
      | none =>
          rw [valueStep_of_unbound hscan] at h
          exact told_unboundValue hscan hl h

/-! ### Locators -/

theorem of_locatorWord_error {element key : String}
    (h : locatorWord element key s = (.error f, t)) :
    s.store.findWord? key = none ∧ f = .locatorUnbound element key := by
  unfold locatorWord at h
  rw [Act.bind_run_ok (word?_run key s)] at h
  cases hword : s.store.findWord? key with
  | some v => rw [hword] at h; cases h
  | none => rw [hword] at h; cases h; exact ⟨rfl, rfl⟩

theorem of_strategyOf_error {element word : String}
    (h : strategyOf element word s = (.error f, t)) :
    ∃ unknown, f = .evaluation element "locator" (.unknownWord unknown) := by
  unfold strategyOf at h
  cases hread : Strategy.read word with
  | error unknown => rw [hread] at h; cases h; exact ⟨unknown, rfl⟩
  | ok strategy => rw [hread] at h; cases h

omit [PageReader ι] in
/-- How the lookup of a locator fails: its element lacks something or has a strategy that is none,
or what fails is the expansion of its expression or the lookup of its container. -/
theorem of_locatorStep_error {element : String}
    (h : r.locatorStep value locator element s = (.error f, t)) :
    (∃ key, s.store.Lacks element key ∧ f = .locatorUnbound element key) ∨
      (∃ unknown, f = .evaluation element "locator" (.unknownWord unknown)) ∨
      ∃ word strategy template, s.store.findWord? (Key.locator element) = some word ∧
        Strategy.read word = .ok strategy ∧
        s.store.findWord? (Key.expression element word) = some template ∧
        (expand value (Template.parse template) s = (.error f, t) ∨
          ∃ x u, expand value (Template.parse template) s = (.ok x, u) ∧
            r.inContainer locator word (.plain element strategy x) u = (.error f, t)) := by
  rcases Act.of_bind_error h with hlocator | ⟨word, u, hlocator, h₁⟩
  · obtain ⟨hnone, rfl⟩ := of_locatorWord_error hlocator
    exact .inl ⟨_, .locator hnone, rfl⟩
  obtain ⟨hword, rfl⟩ := of_locatorWord_ok hlocator
  rcases Act.of_bind_error h₁ with hstrategy | ⟨strategy, u, hstrategy, h₂⟩
  · exact .inr (.inl (of_strategyOf_error hstrategy))
  obtain ⟨hread, rfl⟩ := of_strategyOf_ok hstrategy
  rcases Act.of_bind_error h₂ with hexpression | ⟨template, u, hexpression, h₃⟩
  · obtain ⟨hnone, rfl⟩ := of_locatorWord_error hexpression
    exact .inl ⟨_, .expression hword hread hnone, rfl⟩
  obtain ⟨htemplate, rfl⟩ := of_locatorWord_ok hexpression
  exact .inr (.inr ⟨word, strategy, template, hword, hread, htemplate, Act.of_bind_error h₃⟩)

omit [PageReader ι] in
theorem told_inContainer {element word template x : String} {strategy : Strategy}
    (hword : s.store.findWord? (Key.locator element) = some word)
    (hread : Strategy.read word = .ok strategy)
    (htemplate : s.store.findWord? (Key.expression element word) = some template)
    (hl : ∀ {container f t}, locator container s = (.error f, t) → r.ToldOf s.store container f)
    (h : r.inContainer locator word (.plain element strategy x) s = (.error f, t)) :
    r.ToldOf s.store element f := by
  cases hcontainer : s.store.findWord? (Key.container element word) with
  | none => rw [inContainer_alone hcontainer] at h; cases h
  | some container =>
      have haround : s.store.Around element container := .intro hword hread htemplate hcontainer
      cases hdry : r.dryRun with
      | false =>
          rw [inContainer_inside hdry hcontainer] at h
          rcases Act.of_bind_error h with h | ⟨_, _, -, h⟩
          · exact (hl h).imp_right fun ⟨other, key, hf, hastray⟩ =>
              ⟨other, key, hf, hastray.head haround⟩
          · cases h
      | true =>
          rw [inContainer_dry hdry hcontainer] at h
          rcases Act.of_bind_error h with h | ⟨_, _, -, h⟩
          · obtain ⟨hnone, rfl⟩ := of_locatorWord_error h
            exact .inr ⟨_, _, rfl, .single haround, .locator hnone⟩
          · cases h

theorem told_locatorStep {element : String} (hv : ∀ name, Telling r (value name))
    (hl : ∀ {container s f t}, locator container s = (.error f, t) →
      r.ToldOf s.store container f)
    (h : r.locatorStep value locator element s = (.error f, t)) : r.ToldOf s.store element f := by
  rcases of_locatorStep_error h with ⟨key, hlacks, rfl⟩ | ⟨unknown, rfl⟩ |
    ⟨word, strategy, template, hword, hread, htemplate, h⟩
  · exact .inr ⟨_, _, rfl, .refl, hlacks⟩
  · exact .inl trivial
  · have hexpand : Telling r (expand value (Template.parse template)) := .expand hv _
    rcases h with h | ⟨x, u, hx, h⟩
    · exact .inl (hexpand.told h)
    · -- the element still has its strategy and its expression after that was expanded
      have hframes := frames_of_within hexpand.framed hx
      rw [← hframes.findWord?_eq (Key.settled_locator element)] at hword
      rw [← hframes.findWord?_eq (Key.settled_expression hread element)] at htemplate
      exact hframes.toldOf (told_inContainer hword hread htemplate hl h)

end

/-- At every level lookups tell what is missing. -/
theorem told_levels (r : Resolver ι) (room : Nat) :
    (∀ name, Telling r (r.valueAt room name)) ∧
      ∀ {element s f t}, r.locatorAt room element s = (.error f, t) →
        r.ToldOf s.store element f := by
  -- the names in a template are looked up two levels below, and containers one
  induction room using Nat.strongRecOn with
  | ind room ih =>
      cases room with
      | zero =>
          rw [valueAt_zero, locatorAt_zero]
          exact ⟨.tooDeep, fun h => .inl ((Telling.tooDeep _).told h)⟩
      | succ room =>
          have hsource : ∀ name, Telling r (r.innerSource room name) := fun name =>
            .reference ((ih (room - 1) (by omega)).1 _)
          have hinner : ∀ name, Telling r (r.inner room name) := by
            cases room with
            | zero => exact .tooDeep
            | succ room => exact fun name => .reference ((ih room (by omega)).1 _)
          obtain ⟨hframed, hlocated⟩ := (permits_frame (r := r)).within_levels (room + 1)
          have hl {element s f t} (h : r.locatorAt room element s = (.error f, t)) :=
            (ih room (by omega)).2 h
          refine ⟨fun name => ⟨hframed name, fun h => ?_⟩, fun h => ?_⟩
          · rw [valueAt_succ] at h
            exact told_valueStep hinner hsource hl h
          · rw [locatorAt_succ] at h
            exact told_locatorStep hinner hl h

theorem Telling.value (r : Resolver ι) (name : String) : Telling r (r.value name) :=
  (r.told_levels _).1 name

theorem Telling.interpolate (r : Resolver ι) (template : String) :
    Telling r (r.interpolate template) :=
  .expand (fun _ => .reference ((r.told_levels _).1 _)) _

/-- A name that is said to be unbound when it is looked up itself has no binding. -/
theorem scan_of_value_unbound {name : String} (hname : '/' ∉ name.toList)
    (h : r.value name s = (.error (.unbound name), t)) : s.store.scan name = .ok none := by
  have hunfound : r.Unfound s.store name := (Telling.value r name).told h hname
  refine (ScopeStack.scan_of_unaddressed_none hunfound.unbound).resolve_right fun ⟨v, hv⟩ => ?_
  rw [value, valueAt_of_literal hv] at h
  cases h

/-- An element that cannot be found leaves its name unbound, if it has no binding and no default. -/
theorem value_of_visits {name other key : String} {room : Nat}
    (hscan : s.store.scan name = .ok none) (hdefault : r.defaults name = none)
    (hvisits : r.Visits r.maxDepth name s (room + 1) other u) (hlacks : s.store.Lacks other key) :
    r.value name s = (.error (.unbound name), u) := by
  have hlocator := hvisits.locatorAt_of_lacks hlacks
  rw [value, valueAt_succ, valueStep_of_unbound hscan]
  simp only [unboundValue, hdefault]
  exact Act.bind_run_error (Act.failingAs_run_error _ hlocator)

/-- **What is unbound was so from the beginning, but what is missing may be a container's.**  The
values of names and references and the texts of templates do not fail for lack of a locator, and a
name without slashes that they say is unbound has no binding, but perhaps the address of the page,
and no default, and its element cannot be found: it or one of the containers around it lacks a
strategy or an expression.  A name that is itself looked up has no binding at all then, and if its
element is in no container it lacks a key of its own.  The failure of a locator says which element
lacks which key.  But where the search for the element of a name comes to a container that lacks
one, it is said that the name is unbound. -/
theorem failures_tell_missing (r : Resolver ι) (s : State) :
    (∀ text f t, r.value text s = (.error f, t) ∨ r.referenceValue text s = (.error f, t) ∨
        r.interpolate text s = (.error f, t) → r.Told s.store f) ∧
      (∀ name t, '/' ∉ name.toList → r.value name s = (.error (.unbound name), t) →
        s.store.scan name = .ok none ∧ r.defaults name = none ∧
          (∃ other key, s.store.Astray name other key) ∧
          ((∀ container, ¬ s.store.Around name container) → ∃ key, s.store.Lacks name key)) ∧
      (∀ element other key t, r.locator element s = (.error (.locatorUnbound other key), t) →
        s.store.Astray element other key) ∧
      ∀ name room other u key, s.store.scan name = .ok none → r.defaults name = none →
        r.Visits r.maxDepth name s (room + 1) other u → s.store.Lacks other key →
        r.value name s = (.error (.unbound name), u) := by
  refine ⟨fun text f t h => ?_, fun name t hname h => ?_, fun element other key t h => ?_,
    fun name room other u key => value_of_visits⟩
  · rcases h with h | h | h
    · exact (Telling.value r text).told h
    · exact (Telling.reference (Telling.value r text)).told h
    · exact (Telling.interpolate r text).told h
  · obtain ⟨-, hdefault, other, key, hastray⟩ := (Telling.value r name).told h hname
    exact ⟨scan_of_value_unbound hname h, hdefault, ⟨other, key, hastray⟩,
      fun halone => ⟨key, hastray.lacks halone⟩⟩
  · rcases (r.told_levels _).2 h with htold | ⟨_, _, hf, hastray⟩
    · exact htold.elim
    · cases hf
      exact hastray

/-- A label in a box that is not bound. -/
def boxedLabelState : State :=
  Session.begin ⟨[⟨.page, Session.pageName, [("label/locator", "id"), ("label/locator/id", "l"),
    ("label/locator/id/container", "box")]⟩], []⟩ (World.fresh .bare [])

theorem visits_box : circleResolver.Visits 16 "label" boxedLabelState 15 "box" boxedLabelState := by
  have hword : boxedLabelState.store.findWord? (Key.locator "label") = some "id" := rfl
  have hexpression : boxedLabelState.store.findWord? (Key.expression "label" "id") = some "l" := rfl
  have hcontainer : boxedLabelState.store.findWord? (Key.container "label" "id") = some "box" := rfl
  have hplain : Plain "l" := ⟨by decide +kernel, by decide +kernel, by decide +kernel⟩
  exact .around rfl hword rfl hexpression (expand_of_plain hplain _ _) hcontainer .here

/-- The label is said to be unbound, and lacks no key of its own. -/
theorem label_unbound_for_its_box :
    (circleResolver.value "label" boxedLabelState).1 = .error (.unbound "label") ∧
      ∀ key, ¬ boxedLabelState.store.Lacks "label" key := by
  have hbox : boxedLabelState.store.findWord? (Key.locator "box") = none := rfl
  have hword : boxedLabelState.store.findWord? (Key.locator "label") = some "id" := rfl
  have hexpression : boxedLabelState.store.findWord? (Key.expression "label" "id") = some "l" := rfl
  refine ⟨by rw [value_of_visits rfl rfl visits_box (.locator hbox)], fun key h => ?_⟩
  cases h with
  | locator hnone =>
      rw [hword] at hnone
      cases hnone
  | expression hfound _ hnone =>
      rw [hword] at hfound
      cases hfound
      rw [hexpression] at hnone
      cases hnone

/-- The box lacks its strategy, which is said of the label as that it is unbound. -/
theorem label_astray :
    circleResolver.value "label" boxedLabelState = (.error (.unbound "label"), boxedLabelState) ∧
      boxedLabelState.store.scan "label" = .ok none ∧
      ∃ other key, boxedLabelState.store.Astray "label" other key := by
  have hscan : boxedLabelState.store.scan "label" = .ok none := rfl
  have hbox : boxedLabelState.store.findWord? (Key.locator "box") = none := rfl
  obtain ⟨-, hunbound, -, hvalue⟩ := failures_tell_missing circleResolver boxedLabelState
  have h := hvalue "label" 14 "box" boxedLabelState _ hscan rfl visits_box (.locator hbox)
  obtain ⟨hnone, -, hastray, -⟩ := hunbound "label" boxedLabelState (by decide) h
  exact ⟨h, hnone, hastray⟩

end Resolver

end Bindery
