import Bindery.Proofs.Giving
import Bindery.Proofs.Rehearsal
import Mathlib.Logic.Relation

/-!
# Bindery — Proofs — Drift

How far lookups that give values take the bindings from those they began with.  Names that are
closed under what their lookups look up (`Closed`) keep their bindings, but for elements that were
read, which have their texts (`Drift.scan_eq_or`).  So which names are looked up can be told
beforehand (`Uses`), and the address of the page is bound anew exactly by the lookups of names that
reach it (`drift_of_gives`).

What is told beforehand is told from the bindings without the address (`unaddressed`), as an address
that is read may be empty and leave its name to other bindings.
-/

namespace Bindery

open Template (Segment)

/-! ### Keys of locators -/

/-- A word that names a strategy holds no slash. -/
theorem Strategy.slash_not_mem {word : String} {strategy : Strategy}
    (h : Strategy.read word = .ok strategy) : '/' ∉ word.toList := by
  intro hmem
  have hnormal : '/' ∈ (normalWord word).toList := by
    have htrim : '/' ∈ (Text.trim word).toList := by
      rw [Text.toList_trim]
      exact Text.mem_trimList hmem (by decide)
    unfold normalWord Text.lowerAscii
    rw [String.toList_ofList]
    exact List.mem_map.2 ⟨'/', htrim, by decide⟩
  unfold Strategy.read at h
  cases hword : Strategy.ofWord? (normalWord word) with
  | none => rw [hword] at h; cases h
  | some s =>
      generalize normalWord word = w at hnormal hword
      unfold Strategy.ofWord? at hword
      split at hword
      all_goals first | exact absurd hnormal (by decide) | cases hword

namespace Key

/-- A key that is neither the address of the page nor a text. -/
structure Settled (key : String) : Prop where
  ne_currentUrl : key ≠ currentUrl
  ne_text : ∀ name, key ≠ text name

/-- A key whose last part is another word is settled. -/
theorem settled_of_last (before : List Char) (last : String) {key : String}
    (hkey : key.toList = before ++ '/' :: last.toList) (hslash : '/' ∉ last.toList)
    (hlast : last ≠ "text") : Settled key where
  ne_currentUrl := by
    rintro rfl
    have hmem : '/' ∈ currentUrl.toList := by
      rw [hkey]
      simp
    exact absurd hmem (by decide)
  ne_text name := by
    refine ne_text_of_suffix (fun hsuffix => ?_) name
    obtain ⟨front, hfront⟩ := hsuffix
    have htext : front ++ '/' :: "text".toList = before ++ '/' :: last.toList := hfront.trans hkey
    -- the last slash of either side is the one that is written here
    rcases List.append_eq_append_iff.1 htext with ⟨rest, -, hrest⟩ | ⟨rest, -, hrest⟩
    · cases rest with
      | nil => exact hlast (String.toList_injective (List.cons.inj hrest).2.symm)
      | cons c rest =>
          have hmem : '/' ∈ "text".toList := by rw [(List.cons.inj hrest).2]; simp
          exact absurd hmem (by decide)
    · cases rest with
      | nil => exact hlast (String.toList_injective (List.cons.inj hrest).2)
      | cons c rest => exact hslash (by rw [(List.cons.inj hrest).2]; simp)

theorem settled_locator (element : String) : Settled (locator element) :=
  settled_of_last element.toList "locator" (by simp [locator, toString]) (by decide) (by decide)

theorem settled_container (element word : String) : Settled (container element word) :=
  settled_of_last (element.toList ++ "/locator/".toList ++ word.toList) "container"
    (by simp [container, toString]) (by decide) (by decide)

theorem settled_expression {word : String} {strategy : Strategy}
    (h : Strategy.read word = .ok strategy) (element : String) :
    Settled (expression element word) := by
  refine settled_of_last (element.toList ++ "/locator".toList) word
    (by simp [expression, toString]) (Strategy.slash_not_mem h) ?_
  rintro rfl
  have hread : Strategy.read "text" = .error (.strategy "text") := by decide +kernel
  rw [hread] at h
  cases h

/-- Lookups do not set a settled key. -/
theorem Settled.not_mem_touchedBy {key : String} (h : Settled key) (new : List LiveReading) :
    key ∉ Resolver.touchedBy new := by
  intro hmem
  rcases List.mem_cons.1 hmem with hurl | hmem
  · exact h.ne_currentUrl hurl
  · obtain ⟨ρ, -, htext⟩ := List.mem_map.1 hmem
    exact h.ne_text _ htext.symm

end Key

/-! ### What lookups look up -/

/-- The names that are looked up for segments. -/
def Template.names : List Segment → List String
  | [] => []
  | .text _ :: rest => names rest
  | .reference name :: rest =>
    if isPlaceholder name then names rest else Text.trim name :: names rest

theorem Template.names_placeholder {name : String} (h : isPlaceholder name = true)
    (rest : List Segment) : names (.reference name :: rest) = names rest :=
  if_pos h

theorem Template.names_reference {name : String} (h : isPlaceholder name = false)
    (rest : List Segment) : names (.reference name :: rest) = Text.trim name :: names rest :=
  if_neg (by simp [h])

/-- The templates that a binding expands. -/
def BoundAttribute.templates : BoundAttribute → List String
  | .literal _ => []
  | .script t | .process t | .file t => [t]
  | .xpath s e t => [s, e, t]
  | .regex s e | .jsonPath s e => [s, e]

/-- The bindings without the address of the page. -/
def ScopeStack.unaddressed (s : ScopeStack) : ScopeStack := s.set Key.currentUrl ""

namespace Resolver

variable (r : Resolver Interactor) (σ : ScopeStack)

/-- The locator of an element is found with the value of a name. -/
inductive LocatorUses : String → String → Prop where
  | expression {element word template name : String} :
      σ.findWord? (Key.locator element) = some word →
      σ.findWord? (Key.expression element word) = some template →
      name ∈ Template.names (Template.parse template) → LocatorUses element name
  | container {element word container name : String} : r.dryRun = false →
      σ.findWord? (Key.locator element) = some word →
      σ.findWord? (Key.container element word) = some container →
      LocatorUses container name → LocatorUses element name

/-- The value of a name is found with that of another one. -/
inductive Uses (name : String) : String → Prop where
  | template {b : BoundAttribute} {template next : String} : σ.scan name = .ok (some b) →
      template ∈ b.templates → next ∈ Template.names (Template.parse template) → Uses name next
  | source {b : BoundAttribute} {template text : String} : σ.scan name = .ok (some b) →
      b.source? = some template →
      Template.settled? (r.known σ) (Template.parse template) = some text →
      Uses name (Text.trim text)
  | locator {next : String} : σ.scan name = .ok none → r.defaults name = none →
      r.LocatorUses σ name next → Uses name next

/-- A reference to a name leads to the address of the page. -/
def Reaches (name : String) : Prop := Relation.ReflTransGen (r.Uses σ) name Key.currentUrl

/-- The value of a name is found with the address of the page. -/
def Consults (name : String) : Prop := ∃ next, r.Uses σ name next ∧ r.Reaches σ next

/-- Names that are closed under what is looked up for them; the sources of lookups are told from
bound texts and defaults alone, and texts that are read are in the way of no other name. -/
structure Closed (named : String → Prop) : Prop where
  templates : ∀ {name b}, named name → σ.scan name = .ok (some b) → ∀ template ∈ b.templates,
    ∀ next ∈ Template.names (Template.parse template), named next
  sources : ∀ {name b template}, named name → σ.scan name = .ok (some b) →
    b.source? = some template → ∃ text,
      Template.settled? (r.known σ) (Template.parse template) = some text ∧ named (Text.trim text)
  expressions : ∀ {element word template}, named element →
    σ.findWord? (Key.locator element) = some word →
    σ.findWord? (Key.expression element word) = some template →
    ∀ next ∈ Template.names (Template.parse template), named next
  containers : ∀ {element word container}, named element →
    σ.findWord? (Key.locator element) = some word →
    σ.findWord? (Key.container element word) = some container → named container
  apart : ∀ {element name}, named element → named name →
    name = element ∨ AttributeKind.ofKey? name (Key.text element) = none

variable {r σ} {named : String → Prop}

theorem reaches_iff {name : String} :
    r.Reaches σ name ↔ name = Key.currentUrl ∨ r.Consults σ name := by
  unfold Reaches Consults
  rw [Relation.ReflTransGen.cases_head_iff]
  rfl

/-- What is looked up for a name that has a binding. -/
theorem consults_iff_of_bound {name : String} {b : BoundAttribute}
    (hscan : σ.scan name = .ok (some b)) :
    r.Consults σ name ↔
      (∃ template ∈ b.templates, ∃ next ∈ Template.names (Template.parse template),
          r.Reaches σ next) ∨
        ∃ template text, b.source? = some template ∧
          Template.settled? (r.known σ) (Template.parse template) = some text ∧
          r.Reaches σ (Text.trim text) := by
  constructor
  · rintro ⟨next, huses, hreaches⟩
    cases huses with
    | template hb ht hnext =>
        rw [hscan] at hb
        cases hb
        exact .inl ⟨_, ht, _, hnext, hreaches⟩
    | source hb hs htext =>
        rw [hscan] at hb
        cases hb
        exact .inr ⟨_, _, hs, htext, hreaches⟩
    | locator hnone =>
        rw [hscan] at hnone
        cases hnone
  · rintro (⟨template, ht, next, hnext, hreaches⟩ | ⟨template, text, hs, htext, hreaches⟩)
    · exact ⟨next, .template hscan ht hnext, hreaches⟩
    · exact ⟨_, .source hscan hs htext, hreaches⟩

/-- What is looked up for a name that has no binding and no default. -/
theorem consults_iff_of_unbound {name : String} (hscan : σ.scan name = .ok none)
    (hdefault : r.defaults name = none) :
    r.Consults σ name ↔ ∃ next, r.LocatorUses σ name next ∧ r.Reaches σ next := by
  constructor
  · rintro ⟨next, huses, hreaches⟩
    cases huses with
    | template hb | source hb => rw [hscan] at hb; cases hb
    | locator _ _ hnext => exact ⟨next, hnext, hreaches⟩
  · rintro ⟨next, hnext, hreaches⟩
    exact ⟨next, .locator hscan hdefault hnext, hreaches⟩

theorem locatorUses_iff {element word template next : String}
    (hword : σ.findWord? (Key.locator element) = some word)
    (htemplate : σ.findWord? (Key.expression element word) = some template) :
    r.LocatorUses σ element next ↔ next ∈ Template.names (Template.parse template) ∨
      (r.dryRun = false ∧ ∃ container, σ.findWord? (Key.container element word) = some container ∧
        r.LocatorUses σ container next) := by
  constructor
  · intro h
    cases h with
    | expression hw ht hnext =>
        rw [hword] at hw
        cases hw
        rw [htemplate] at ht
        cases ht
        exact .inl hnext
    | container hlive hw hc hnext =>
        rw [hword] at hw
        cases hw
        exact .inr ⟨hlive, _, hc, hnext⟩
  · rintro (hnext | ⟨hlive, container, hcontainer, hnext⟩)
    · exact .expression hword htemplate hnext
    · exact .container hlive hword hcontainer hnext

end Resolver

/-! ### Bindings without the address -/

namespace ScopeStack

theorem mem_current_unaddressed {s : ScopeStack} {p : String × String}
    (h : p ∈ s.current.entries) (hp : p.1 ≠ Key.currentUrl) :
    p ∈ s.unaddressed.current.entries := by
  rw [unaddressed, current_set]
  exact Entries.mem_put_iff.2 (.inr ⟨h, hp⟩)

theorem reframed_unaddressed (s : ScopeStack) : Reframed [Key.currentUrl] s.unaddressed s := by
  have h : Reframed [Key.currentUrl] s s.unaddressed :=
    .set "" (.refl _ _) List.mem_cons_self fun hne => absurd rfl hne
  refine ⟨h.outer.symm, h.kind.symm, h.name.symm, h.others.symm, fun p hp hv hurl => ?_⟩
  rw [unaddressed, current_set] at hp
  rcases Entries.mem_put_iff.1 hp with rfl | ⟨hp, -⟩
  · exact absurd rfl hv
  · exact hp

end ScopeStack

namespace Resolver

variable (r : Resolver Interactor) (named : String → Prop) (start : State)

/-- What lookups of names that are closed made of a state: elements of which nothing gave a value
were read, `new` of them, and their texts were bound, with the address of the page if it was read,
too. -/
structure Drift (new : List LiveReading) (addressed : Prop) (s : State) : Prop where
  readings : s.readings = new ++ start.readings
  named : ∀ ρ ∈ new, named ρ.locator.element
  unbound : ∀ ρ ∈ new, start.store.unaddressed.scan ρ.locator.element = .ok none
  default : ∀ ρ ∈ new, r.defaults ρ.locator.element = none
  consulted : ∀ ρ ∈ new, r.Consults start.store.unaddressed ρ.locator.element → addressed
  framed : start.store.Reframed (touchedBy new) s.store
  unset : ¬ addressed → start.store.Reframed (new.map fun ρ => Key.text ρ.locator.element) s.store
  address : addressed → ∃ address,
    (r.dryRun = true → address = Template.placeholder Key.currentUrl) ∧
      s.store.current.entries.find? Key.currentUrl = some address

variable {r named start}

namespace Drift

variable {new : List LiveReading} {m m' : Prop} {s : State}

theorem refl (start : State) : r.Drift named start [] False start where
  readings := rfl
  named := by simp
  unbound := by simp
  default := by simp
  consulted := by simp
  framed := .refl _ _
  unset _ := .refl _ _
  address := False.elim

theorem congr (h : r.Drift named start new m s) (hm : m ↔ m') : r.Drift named start new m' s :=
  propext hm ▸ h

/-- The bindings, as they are told from those without the address. -/
theorem fromUnaddressed (h : r.Drift named start new m s) :
    start.store.unaddressed.Reframed (touchedBy new) s.store :=
  .trans (start.store.reframed_unaddressed.mono (List.cons_subset_cons _ (List.nil_subset _)))
    h.framed

theorem findWord?_eq (h : r.Drift named start new m s) {key : String} (hkey : Key.Settled key) :
    s.store.findWord? key = start.store.unaddressed.findWord? key :=
  h.fromUnaddressed.findWord?_eq (hkey.not_mem_touchedBy new)

/-- An element has the strategy and the expression that it had. -/
theorem located (h : r.Drift named start new m s) {element word template : String}
    {strategy : Strategy} (hword : s.store.findWord? (Key.locator element) = some word)
    (hread : Strategy.read word = .ok strategy)
    (htemplate : s.store.findWord? (Key.expression element word) = some template) :
    start.store.unaddressed.findWord? (Key.locator element) = some word ∧
      start.store.unaddressed.findWord? (Key.expression element word) = some template := by
  rw [h.findWord?_eq (Key.settled_locator element)] at hword
  rw [h.findWord?_eq (Key.settled_expression hread element)] at htemplate
  exact ⟨hword, htemplate⟩

/-- A name has the binding that it had, or it is the address of the page or was read, and has a
text. -/
theorem scan_eq_or (hc : r.Closed start.store.unaddressed named)
    (h : r.Drift named start new m s) {name : String} (hname : named name) :
    s.store.scan name = start.store.unaddressed.scan name ∨
      (∃ v, s.store.scan name = .ok (some (.literal v))) ∧
        (name = Key.currentUrl ∨ ∃ ρ ∈ new, ρ.locator.element = name) := by
  by_cases hread : name = Key.currentUrl ∨ ∃ ρ ∈ new, ρ.locator.element = name
  · refine (h.fromUnaddressed.scan_eq_or (fun key hkey kind hkind => ?_)
      fun p hp hkey => ?_).imp_right fun h => ⟨h.imp fun _ hv => hv.2, hread⟩
    · rcases List.mem_cons.1 hkey with rfl | hkey
      · by_cases hurl : name = Key.currentUrl
        · rw [hurl, AttributeKind.ofKey?_self] at hkind
          cases hkind
          rfl
        · rw [AttributeKind.ofKey?_currentUrl hurl] at hkind
          cases hkind
      · obtain ⟨ρ, hρ, rfl⟩ := List.mem_map.1 hkey
        rcases hc.apart (h.named ρ hρ) hname with rfl | hnone
        · rw [AttributeKind.ofKey?_text] at hkind
          cases hkind
          rfl
        · rw [hnone] at hkind
          cases hkind
    · rcases List.mem_cons.1 hkey with hurl | hkey
      · rw [ScopeStack.unaddressed, ScopeStack.current_set] at hp
        rcases Entries.mem_put_iff.1 hp with rfl | ⟨-, hne⟩
        · exact .inl rfl
        · exact absurd hurl hne
      · obtain ⟨ρ, hρ, htext⟩ := List.mem_map.1 hkey
        exact .inl (ScopeStack.text_empty_of_scan (h.unbound ρ hρ)
          (ScopeStack.mem_entries_iff.2 (.inl hp)) htext.symm)
  · obtain ⟨hurl, hread⟩ := not_or.1 hread
    refine .inl (h.fromUnaddressed.scan_eq fun key hkey => ?_)
    rcases List.mem_cons.1 hkey with rfl | hkey
    · exact AttributeKind.ofKey?_currentUrl hurl
    · obtain ⟨ρ, hρ, rfl⟩ := List.mem_map.1 hkey
      exact (hc.apart (h.named ρ hρ) hname).resolve_left fun he => hread ⟨ρ, hρ, he.symm⟩

/-- What is no text that is bound is the binding that a name had. -/
theorem scan_eq (hc : r.Closed start.store.unaddressed named) (h : r.Drift named start new m s)
    {name : String} (hname : named name) {found : Option BoundAttribute}
    (hscan : s.store.scan name = .ok found) (hfound : ∀ v, found ≠ some (.literal v)) :
    start.store.unaddressed.scan name = .ok found := by
  rcases h.scan_eq_or hc hname with heq | ⟨⟨v, hv⟩, -⟩
  · rw [← heq, hscan]
  · rw [hscan] at hv
    exact absurd (Except.ok.inj hv) (hfound v)

theorem bindUrl (h : r.Drift named start new m s) {address : String} (w : World)
    (hdry : r.dryRun = true → address = Template.placeholder Key.currentUrl) :
    r.Drift named start new True
      { s with store := s.store.set Key.currentUrl address, world := w } where
  readings := h.readings
  named := h.named
  unbound := h.unbound
  default := h.default
  consulted _ _ _ := trivial
  framed := h.framed.set address List.mem_cons_self fun hne => absurd rfl hne
  unset hnot := absurd trivial hnot
  address _ := ⟨address, hdry, by
    rw [ScopeStack.current_set]
    exact Entries.find?_put_self _ _ _⟩

theorem ofWorld (h : r.Drift named start new m s) (w : World) :
    r.Drift named start new m { s with world := w } :=
  ⟨h.readings, h.named, h.unbound, h.default, h.consulted, h.framed, h.unset, h.address⟩

/-- An element is read that has no value otherwise. -/
theorem hearing (h : r.Drift named start new m s) {l : Locator} (w : World) (text : String)
    (hname : named l.element) (hscan : start.store.unaddressed.scan l.element = .ok none)
    (hdefault : r.defaults l.element = none)
    (hconsults : r.Consults start.store.unaddressed l.element → m) :
    r.Drift named start (⟨l, s.store, s.world, text⟩ :: new) m (s.hearing l w text) := by
  have hempty : ∀ p ∈ start.store.current.entries, p.1 = Key.text l.element → p.2 = "" := by
    intro p hp hkey
    have hurl : p.1 ≠ Key.currentUrl := by
      rw [hkey]
      exact (Key.currentUrl_ne_text _).symm
    exact ScopeStack.text_empty_of_scan hscan
      (ScopeStack.mem_entries_iff.2 (.inl (ScopeStack.mem_current_unaddressed hp hurl))) hkey
  exact
    { readings := by simp [State.hearing, h.readings]
      named := List.forall_mem_cons.2 ⟨hname, h.named⟩
      unbound := List.forall_mem_cons.2 ⟨hscan, h.unbound⟩
      default := List.forall_mem_cons.2 ⟨hdefault, h.default⟩
      consulted := List.forall_mem_cons.2 ⟨hconsults, h.consulted⟩
      framed := .set text (h.framed.mono (touchedBy_subset_right [_] new)) (by simp [touchedBy])
        fun _ => hempty
      unset := fun hnot => .set text ((h.unset hnot).mono (by simp)) (by simp) fun _ => hempty
      address := fun hm => by
        obtain ⟨address, hdry, hfind⟩ := h.address hm
        refine ⟨address, hdry, ?_⟩
        show (s.store.set (Key.text l.element) text).current.entries.find? Key.currentUrl = _
        rw [ScopeStack.current_set, ← hfind]
        exact Entries.find?_put_other (Key.currentUrl_ne_text _) _ _ }

end Drift

namespace Quest

/-- What is looked up first is named. -/
def Named (named : String → Prop) : Quest → Prop
  | .value name | .reference name | .locator name => named name
  | .template segments => ∀ name ∈ Template.names segments, named name

/-- What is looked up in a state leads to the address of the page. -/
def Leads (r : Resolver Interactor) (σ : ScopeStack) (s : State) : Quest → Prop
  | .value name => s.store.scan name = σ.scan name ∧ r.Consults σ name
  | .reference name => r.Reaches σ name
  | .template segments => ∃ name ∈ Template.names segments, r.Reaches σ name
  | .locator element => ∃ name, r.LocatorUses σ element name ∧ r.Reaches σ name

/-- What is found is the text that was known before. -/
def Tells (r : Resolver Interactor) (σ : ScopeStack) (v : String) : Quest → Prop
  | .value name | .reference name => ∀ u, r.known σ name = some u → v = u
  | .template segments => ∀ u, Template.settled? (r.known σ) segments = some u → v = u
  | .locator _ => True

end Quest

/-- A name with a text for its binding consults nothing. -/
theorem not_consults_literal {σ : ScopeStack} {name v : String}
    (h : σ.scan name = .ok (some (.literal v))) : ¬ r.Consults σ name := by
  rw [consults_iff_of_bound h]
  simp [BoundAttribute.templates, BoundAttribute.source?]

theorem template?_mem {b : BoundAttribute} {template : String} (h : b.template? = some template) :
    b.templates = [template] ∧ b.source? = none := by
  cases b <;> cases h <;> exact ⟨rfl, rfl⟩

/-- The templates of a lookup are its source, its expression and its target type, if it has one. -/
theorem exists_templates_iff {b : BoundAttribute} {source : String} (h : b.source? = some source)
    {P : List Segment → Prop} (hP : ¬ P []) :
    (∃ template ∈ b.templates, P (Template.parse template)) ↔
      P (Template.parse source) ∨ P (Template.parse b.expression) ∨
        P (Template.parse b.target) := by
  have hnothing : ¬ P (Template.parse "") := by
    rwa [Template.parse_of_not_mem (by decide), if_pos rfl]
  cases b <;> cases h <;>
    simp [BoundAttribute.templates, BoundAttribute.expression, BoundAttribute.target, hnothing]

/-- The templates of a lookup refer to closed names only. -/
theorem Closed.named_of_source {σ : ScopeStack} (hc : r.Closed σ named) {name source : String}
    {b : BoundAttribute} (hname : named name) (hscan : σ.scan name = .ok (some b))
    (hsource : b.source? = some source) :
    (Quest.template (Template.parse source)).Named named ∧
      (Quest.template (Template.parse b.expression)).Named named ∧
      (Quest.template (Template.parse b.target)).Named named := by
  have hnames {next : String} := (exists_templates_iff hsource
    (P := fun segments => next ∈ Template.names segments) List.not_mem_nil).2
  have hclosed {next : String} (h : ∃ template ∈ b.templates,
      next ∈ Template.names (Template.parse template)) : named next := by
    obtain ⟨template, ht, hnext⟩ := h
    exact hc.templates hname hscan template ht next hnext
  exact ⟨fun _ h => hclosed (hnames (.inl h)), fun _ h => hclosed (hnames (.inr (.inl h))),
    fun _ h => hclosed (hnames (.inr (.inr h)))⟩

/-- A default is found without consulting anything. -/
theorem not_consults_default {σ : ScopeStack} {name v : String} (h : σ.scan name = .ok none)
    (hdefault : r.defaults name = some v) : ¬ r.Consults σ name := by
  rintro ⟨next, huses, -⟩
  cases huses with
  | template hb | source hb => rw [h] at hb; cases hb
  | locator _ hnone => rw [hdefault] at hnone; cases hnone

section

variable {σ : ScopeStack} {s : State} {name : String}

/-- The value of a name that a template gives leads where the template leads. -/
theorem leads_value_of_template {b : BoundAttribute} {template : String}
    (hscan : s.store.scan name = .ok (some b)) (hσ : σ.scan name = .ok (some b))
    (htemplate : b.template? = some template) :
    (Quest.value name).Leads r σ s ↔ (Quest.template (Template.parse template)).Leads r σ s := by
  obtain ⟨htemplates, hsource⟩ := template?_mem htemplate
  simp [Quest.Leads, hscan, hσ, consults_iff_of_bound hσ, htemplates, hsource]

/-- The value of a name that is looked up in another one leads where its templates lead, and where
that other name leads. -/
theorem leads_value_of_source {b : BoundAttribute} {source text : String}
    (hscan : s.store.scan name = .ok (some b)) (hσ : σ.scan name = .ok (some b))
    (hsource : b.source? = some source)
    (htext : Template.settled? (r.known σ) (Template.parse source) = some text) :
    (Quest.value name).Leads r σ s ↔
      (Quest.template (Template.parse source)).Leads r σ s ∨ r.Reaches σ (Text.trim text) ∨
        (Quest.template (Template.parse b.expression)).Leads r σ s ∨
        (Quest.template (Template.parse b.target)).Leads r σ s := by
  have htemplates := exists_templates_iff hsource
    (P := fun segments => ∃ next ∈ Template.names segments, r.Reaches σ next)
    (by simp [Template.names])
  have hfound : (∃ template text, b.source? = some template ∧
      Template.settled? (r.known σ) (Template.parse template) = some text ∧
      r.Reaches σ (Text.trim text)) ↔ r.Reaches σ (Text.trim text) := by
    refine ⟨?_, fun h => ⟨source, text, hsource, htext, h⟩⟩
    rintro ⟨_, _, hs, ht, h⟩
    rw [hsource] at hs
    cases hs
    rw [htext] at ht
    cases ht
    exact h
  rw [Quest.Leads, hscan, hσ, consults_iff_of_bound hσ, htemplates, hfound, or_assoc,
    or_comm (b := r.Reaches σ _)]
  simp only [Quest.Leads, true_and]

/-- The value of a name that only its element has leads where its locator leads. -/
theorem leads_value_of_unbound (hscan : s.store.scan name = .ok none)
    (hσ : σ.scan name = .ok none) (hdefault : r.defaults name = none) :
    (Quest.value name).Leads r σ s ↔ (Quest.locator name).Leads r σ s := by
  simp [Quest.Leads, hscan, hσ, consults_iff_of_unbound hσ hdefault]

end

/-! ### What lookups make of a state -/

/-- From one state to another a lookup goes as is told beforehand.  It binds the address of the page
anew if it leads there and leaves it alone otherwise, and what it finds is what is known. -/
def Drifts (r : Resolver Interactor) (named : String → Prop) (start : State) (q : Quest) (s : State)
    (v : String) (t : State) : Prop :=
  ∀ {new : List LiveReading} {m : Prop}, r.Drift named start new m s → q.Named named →
    (∃ more, r.Drift named start more (m ∨ q.Leads r start.store.unaddressed s) t) ∧
      q.Tells r start.store.unaddressed v

namespace Drifts

variable {s t u t' u' : State} {name v x y z word : String}

theorem text (a : String) {rest : List Segment} (h : r.Drifts named start (.template rest) s v t) :
    r.Drifts named start (.template (.text a :: rest)) s (a ++ v) t := by
  intro new m hs hq
  obtain ⟨hdrift, htells⟩ := h hs hq
  refine ⟨hdrift, fun u hu => ?_⟩
  obtain ⟨w, hw, rfl⟩ := Template.of_settled?_text hu
  rw [htells w hw]

theorem placeholder {rest : List Segment} (hname : Template.isPlaceholder name = true)
    (h : r.Drifts named start (.template rest) s v t) :
    r.Drifts named start (.template (.reference name :: rest)) s
      ((Segment.reference name).write ++ v) t := by
  intro new m hs hq
  have hnames := Template.names_placeholder hname rest
  simp only [Quest.Named, hnames] at hq
  obtain ⟨hdrift, htells⟩ := h hs hq
  refine ⟨by simpa only [Quest.Leads, hnames] using hdrift, fun u hu => ?_⟩
  obtain ⟨w, hw, rfl⟩ := Template.of_settled?_placeholder hname hu
  rw [htells w hw]

theorem fill {rest : List Segment} (hname : Template.isPlaceholder name = false)
    (h : r.Drifts named start (.reference (Text.trim name)) s v t)
    (hrest : r.Drifts named start (.template rest) t x u) :
    r.Drifts named start (.template (.reference name :: rest)) s (v ++ x) u := by
  intro new m hs hq
  have hnames := Template.names_reference hname rest
  simp only [Quest.Named, hnames] at hq
  obtain ⟨hhead, hq⟩ := List.forall_mem_cons.1 hq
  obtain ⟨⟨_, hdrift⟩, htells⟩ := h hs hhead
  obtain ⟨⟨more, hdrift⟩, htells'⟩ := hrest hdrift hq
  refine ⟨⟨more, hdrift.congr ?_⟩, fun w hw => ?_⟩
  · simp [Quest.Leads, hnames, or_assoc]
  · obtain ⟨y, z, hy, hz, rfl⟩ := Template.of_settled?_reference hname hw
    rw [htells y hy, htells' z hz]

theorem url {address : String} {w : World}
    (hdry : r.dryRun = true → address = Template.placeholder Key.currentUrl)
    (h : r.Drifts named start (.value Key.currentUrl)
      { s with store := s.store.set Key.currentUrl address, world := w } v t) :
    r.Drifts named start (.reference Key.currentUrl) s v t := by
  intro new m hs hq
  obtain ⟨⟨more, hdrift⟩, -⟩ := h (hs.bindUrl w hdry) hq
  refine ⟨⟨more, hdrift.congr ?_⟩, fun u hu => ?_⟩
  · exact ⟨fun _ => .inr .refl, fun _ => .inl trivial⟩
  · rw [known_currentUrl] at hu
    cases hu

variable (hc : r.Closed start.store.unaddressed named)
include hc

theorem reference (hurl : name ≠ Key.currentUrl) (h : r.Drifts named start (.value name) s v t) :
    r.Drifts named start (.reference name) s v t := by
  intro new m hs hq
  obtain ⟨⟨more, hdrift⟩, htells⟩ := h hs hq
  refine ⟨⟨more, hdrift.congr ?_⟩, htells⟩
  simp only [Quest.Leads, reaches_iff, hurl, false_or]
  rcases hs.scan_eq_or hc hq with heq | ⟨-, hread⟩
  · simp [heq]
  · -- what was read leads no further than it did when it was read
    obtain ⟨ρ, hρ, rfl⟩ := hread.resolve_left hurl
    exact ⟨Or.imp_right And.right, fun h => .inl (h.elim id (hs.consulted ρ hρ))⟩

theorem literal (hscan : s.store.scan name = .ok (some (.literal v))) :
    r.Drifts named start (.value name) s v s := by
  intro new m hs hq
  refine ⟨⟨new, hs.congr ⟨.inl, fun h => h.elim id ?_⟩⟩, fun u hu => ?_⟩
  · rintro ⟨heq, hconsults⟩
    exact absurd hconsults (not_consults_literal (heq.symm.trans hscan))
  · rcases hs.scan_eq_or hc hq with heq | ⟨-, rfl | ⟨ρ, hρ, rfl⟩⟩
    · exact eq_of_known hu (.literal (heq.symm.trans hscan))
    · rw [known_currentUrl] at hu
      cases hu
    · rw [known_of_unbound (hs.unbound ρ hρ) (hs.default ρ hρ)] at hu
      cases hu

theorem default (hscan : s.store.scan name = .ok none) (hdefault : r.defaults name = some v) :
    r.Drifts named start (.value name) s v s := by
  intro new m hs hq
  have hσ := hs.scan_eq hc hq hscan (by simp)
  refine ⟨⟨new, hs.congr ⟨.inl, fun h => h.elim id fun hleads => ?_⟩⟩, fun u hu => ?_⟩
  · exact absurd hleads.2 (not_consults_default hσ hdefault)
  · exact eq_of_known hu (.default hσ hdefault)

/-- A binding with one template leads where the template leads, and its value is not known. -/
theorem answer {template : String} {b : BoundAttribute}
    (hscan : s.store.scan name = .ok (some b)) (htemplate : b.template? = some template)
    (h : r.Drifts named start (.template (Template.parse template)) s x t) (v : String)
    (w : World) : r.Drifts named start (.value name) s v { t with world := w } := by
  intro new m hs hq
  have hb : ∀ v, b ≠ .literal v := by rintro v rfl; cases htemplate
  have hσ := hs.scan_eq hc hq hscan (by simpa using hb)
  obtain ⟨htemplates, -⟩ := template?_mem htemplate
  obtain ⟨⟨more, hdrift⟩, -⟩ := h hs (hc.templates hq hσ template (by simp [htemplates]))
  refine ⟨⟨more, (hdrift.ofWorld w).congr ?_⟩, fun u hu => ?_⟩
  · rw [leads_value_of_template hscan hσ htemplate]
  · rw [known_of_scan hσ hb] at hu
    cases hu

theorem lookup {source : String} {b : BoundAttribute} (hscan : s.store.scan name = .ok (some b))
    (hsource : b.source? = some source)
    (h₁ : r.Drifts named start (.template (Template.parse source)) s x t)
    (h₂ : r.Drifts named start (.reference (Text.trim x)) t y u)
    (h₃ : r.Drifts named start (.template (Template.parse b.expression)) u z u')
    (h₄ : r.Drifts named start (.template (Template.parse b.target)) u' word t') (v : String)
    (w : World) : r.Drifts named start (.value name) s v { t' with world := w } := by
  intro new m hs hq
  have hb : ∀ v, b ≠ .literal v := by rintro v rfl; cases hsource
  have hσ := hs.scan_eq hc hq hscan (by simpa using hb)
  obtain ⟨text, htext, hname⟩ := hc.sources hq hσ hsource
  obtain ⟨hnames₁, hnames₃, hnames₄⟩ := hc.named_of_source hq hσ hsource
  obtain ⟨⟨_, hdrift⟩, htells⟩ := h₁ hs hnames₁
  -- the source is settled, so the name that is looked up next is the one that was told
  obtain rfl := htells text htext
  obtain ⟨⟨_, hdrift⟩, -⟩ := h₂ hdrift hname
  obtain ⟨⟨_, hdrift⟩, -⟩ := h₃ hdrift hnames₃
  obtain ⟨⟨more, hdrift⟩, -⟩ := h₄ hdrift hnames₄
  refine ⟨⟨more, (hdrift.ofWorld w).congr ?_⟩, fun u hu => ?_⟩
  · rw [leads_value_of_source hscan hσ hsource htext]
    simp only [Quest.Leads, or_assoc]
  · rw [known_of_scan hσ hb] at hu
    cases hu

theorem heard {l : Locator} (hscan : s.store.scan l.element = .ok none)
    (hdefault : r.defaults l.element = none)
    (h : r.Drifts named start (.locator l.element) s x t) (v : String) (w : World) :
    r.Drifts named start (.value l.element) s v (t.hearing l w v) := by
  intro new m hs hq
  have hσ := hs.scan_eq hc hq hscan (by simp)
  obtain ⟨⟨more, hdrift⟩, -⟩ := h hs hq
  rw [← leads_value_of_unbound hscan hσ hdefault] at hdrift
  refine ⟨⟨_, hdrift.hearing w v hq hσ hdefault fun hconsults => .inr ⟨?_, hconsults⟩⟩,
    fun u hu => ?_⟩
  · rw [hscan, hσ]
  · rw [known_of_unbound hσ hdefault] at hu
    cases hu

theorem unheard (hscan : s.store.scan name = .ok none) (hdefault : r.defaults name = none)
    (h : r.Drifts named start (.locator name) s x t) (v : String) :
    r.Drifts named start (.value name) s v t := by
  intro new m hs hq
  have hσ := hs.scan_eq hc hq hscan (by simp)
  obtain ⟨⟨more, hdrift⟩, -⟩ := h hs hq
  rw [← leads_value_of_unbound hscan hσ hdefault] at hdrift
  refine ⟨⟨more, hdrift⟩, fun u hu => ?_⟩
  rw [known_of_unbound hσ hdefault] at hu
  cases hu

section

variable {element template container : String} {strategy : Strategy}
  (hword : s.store.findWord? (Key.locator element) = some word)
  (hread : Strategy.read word = .ok strategy)
  (htemplate : s.store.findWord? (Key.expression element word) = some template)
  (h : r.Drifts named start (.template (Template.parse template)) s x t)
include hword hread htemplate h

theorem alone (hcontainer : t.store.findWord? (Key.container element word) = none) :
    r.Drifts named start (.locator element) s x t := by
  intro new m hs hq
  obtain ⟨hword, htemplate⟩ := hs.located hword hread htemplate
  obtain ⟨⟨more, hdrift⟩, -⟩ := h hs (hc.expressions hq hword htemplate)
  rw [hdrift.findWord?_eq (Key.settled_container element word)] at hcontainer
  refine ⟨⟨more, hdrift.congr ?_⟩, trivial⟩
  simp [Quest.Leads, locatorUses_iff hword htemplate, hcontainer]

theorem inside (hcontainer : t.store.findWord? (Key.container element word) = some container)
    (hlive : r.dryRun = false) (haround : r.Drifts named start (.locator container) t y u) :
    r.Drifts named start (.locator element) s x u := by
  intro new m hs hq
  obtain ⟨hword, htemplate⟩ := hs.located hword hread htemplate
  obtain ⟨⟨_, hdrift⟩, -⟩ := h hs (hc.expressions hq hword htemplate)
  rw [hdrift.findWord?_eq (Key.settled_container element word)] at hcontainer
  obtain ⟨⟨more, hdrift⟩, -⟩ := haround hdrift (hc.containers hq hword hcontainer)
  refine ⟨⟨more, hdrift.congr ?_⟩, trivial⟩
  simp [Quest.Leads, locatorUses_iff hword htemplate, hcontainer, hlive, or_assoc, or_and_right,
    exists_or]

/-- The container is not looked up in a dry run. -/
theorem insideDry (hdry : r.dryRun = true) : r.Drifts named start (.locator element) s x t := by
  intro new m hs hq
  obtain ⟨hword, htemplate⟩ := hs.located hword hread htemplate
  obtain ⟨⟨more, hdrift⟩, -⟩ := h hs (hc.expressions hq hword htemplate)
  refine ⟨⟨more, hdrift.congr ?_⟩, trivial⟩
  simp [Quest.Leads, locatorUses_iff hword htemplate, hdry]

end

end Drifts

/-- What lookups of closed names look up is told beforehand, and so is what they find where that is
known.  The address of the page is bound anew if they lead to it, and left alone otherwise. -/
theorem drift_of_gives {k : Nat} {q : Quest} {s t : State} {v : String}
    (hc : r.Closed start.store.unaddressed named) (h : r.Gives k q s v t) :
    r.Drifts named start q s v t := by
  induction h with
  | nil =>
      intro new m hs hq
      refine ⟨⟨new, hs.congr ?_⟩, fun u hu => Option.some.inj hu⟩
      simp [Quest.Leads, Template.names]
  | text a _ ih => exact Drifts.text a ih
  | placeholder hname _ ih => exact Drifts.placeholder hname ih
  | fill hname _ _ ih ihrest => exact Drifts.fill hname ih ihrest
  | url hdry _ _ ih => exact Drifts.url hdry ih
  | name hurl _ ih => exact Drifts.reference hc hurl ih
  | literal hscan => exact Drifts.literal hc hscan
  | default hscan hdefault => exact Drifts.default hc hscan hdefault
  | file hscan _ _ ih => exact Drifts.answer hc hscan rfl ih _ _
  | answer hscan htemplate _ _ _ ih => exact Drifts.answer hc hscan htemplate ih _ _
  | lookup hscan hsource _ _ _ _ _ _ ih₁ ih₂ ih₃ ih₄ =>
      exact Drifts.lookup hc hscan hsource ih₁ ih₂ ih₃ ih₄ _ _
  | heard _ hscan hdefault _ hl _ ih =>
      subst hl
      exact Drifts.heard hc hscan hdefault ih _ _
  | unheard _ hscan hdefault _ ih => exact Drifts.unheard hc hscan hdefault ih _
  | alone hword hread htemplate _ hcontainer ih =>
      exact Drifts.alone hc hword hread htemplate ih hcontainer
  | inside hword hread htemplate _ hcontainer hlive _ ih ih' =>
      exact Drifts.inside hc hword hread htemplate ih hcontainer hlive ih'
  | insideDry hword hread htemplate _ _ hdry _ ih =>
      exact Drifts.insideDry hc hword hread htemplate ih hdry

end Resolver

end Bindery
