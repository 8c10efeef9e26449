import Bindery.Proofs.Coherence
import Bindery.Proofs.Readiness

/-!
# Bindery — Proofs — Acceptance

A dry run accepts what the live run accepts, where no source, path or target type is filled in with
what only the page or an evaluator has.

The live run has looked up everything that the dry run looks up, though not as deep: a text that
was read stands in the bindings from then on, and a dry run looks for its element again wherever it
comes to it.  So for each text that was read the dry run may need as many levels again
(`ready_of_gives`).
-/

namespace Bindery

open Template (Segment)

namespace Resolver

/-- Names whose lookups a dry run can follow: they are closed, paths and target types are told from
bound texts and defaults, and a process, which may write files, is not among them along with a
file. -/
structure Rehearsable (r : Resolver Interactor) (σ : ScopeStack) (named : String → Prop) :
    Prop extends r.Closed σ named where
  paths : ∀ {name template}, named name → σ.scan name = .ok (some (.file template)) →
    ∃ path, Template.settled? (r.known σ) (Template.parse template) = some path
  targets : ∀ {name b}, named name → σ.scan name = .ok (some b) →
    ∃ word, Template.settled? (r.known σ) (Template.parse b.target) = some word
  processes : ∀ {name other template command}, named name → named other →
    σ.scan name = .ok (some (.file template)) → σ.scan other ≠ .ok (some (.process command))

/-! ### How the log of readings grows -/

section

variable {r : Resolver Interactor} {named : String → Prop} {start s t : State}
  {new more : List LiveReading} {m m' : Prop}

theorem Drift.new_eq (hs : r.Drift named start new m s) (ht : r.Drift named start more m' t)
    (h : t.readings = s.readings) : more = new := by
  rw [hs.readings, ht.readings] at h
  exact List.append_cancel_right h

theorem length_readings_le_of_gives {k : Nat} {q : Quest} {v : String} (h : r.Gives k q s v t) :
    s.readings.length ≤ t.readings.length := by
  induction h with
  | nil | literal | default => exact Nat.le_refl _
  | text _ _ ih | placeholder _ _ ih | url _ _ _ ih | name _ _ ih | file _ _ _ ih
  | answer _ _ _ _ _ ih | unheard _ _ _ _ ih | alone _ _ _ _ _ ih
  | insideDry _ _ _ _ _ _ _ ih => exact ih
  | heard _ _ _ _ _ _ ih => exact Nat.le_succ_of_le ih
  | fill _ _ _ ih ih' | inside _ _ _ _ _ _ _ ih ih' => exact ih.trans ih'
  | lookup _ _ _ _ _ _ _ _ ih₁ ih₂ ih₃ ih₄ => exact ih₁.trans (ih₂.trans (ih₃.trans ih₄))

theorem Drift.length_le (hs : r.Drift named start new m s) (ht : r.Drift named start more m' t)
    {k : Nat} {q : Quest} {v : String} (h : r.Gives k q s v t) : new.length ≤ more.length := by
  have hle := length_readings_le_of_gives h
  rw [hs.readings, ht.readings, List.length_append, List.length_append] at hle
  exact Nat.le_of_add_le_add_right hle

end

/-! ### What the live run was ready for -/

/-- Without room there are no references. -/
theorem template_of_gives_zero {r : Resolver Interactor} {k : Nat} {q : Quest} {s t : State}
    {v : String} (h : r.Gives k q s v t) (hk : k = 0) :
    ∃ segments, q = .template segments ∧ Template.names segments = [] := by
  induction h with
  | nil => exact ⟨_, rfl, rfl⟩
  | text a _ ih =>
      obtain ⟨_, hrest, hnames⟩ := ih hk
      cases hrest
      exact ⟨_, rfl, hnames⟩
  | placeholder hname _ ih =>
      obtain ⟨_, hrest, hnames⟩ := ih hk
      cases hrest
      exact ⟨_, rfl, (Template.names_placeholder hname _).trans hnames⟩
  | fill _ _ _ ih | url _ _ _ ih | name _ _ ih =>
      obtain ⟨_, hreference, -⟩ := ih hk
      cases hreference
  | _ => cases hk

/-- What the dry run is ready for from the start of the live run on. -/
abbrev ReadyFrom (r : Resolver Interactor) (limit : Nat) (start : State) : Nat → Quest → Prop :=
  (r.rehearsal.withLimit limit).Ready start.store.unaddressed start.world

/-- What is looked up in a state of the live run the dry run is ready for; a value that does not
come from what was bound at first does not count. -/
def Quest.ReadyIn (r : Resolver Interactor) (limit : Nat) (start : State) (k : Nat) (s : State) :
    Quest → Prop
  | .value name => s.store.scan name = start.store.unaddressed.scan name →
      r.ReadyFrom limit start k (.value name)
  | q => r.ReadyFrom limit start k q

/-- In a state of the live run files are as they were, if any is looked up, and the dry run is ready
for the texts that were read. -/
structure Ripe (r : Resolver Interactor) (limit : Nat) (named : String → Prop) (start : State)
    (K : Nat) (new : List LiveReading) (s : State) : Prop where
  files : ∀ {name template}, named name →
    start.store.unaddressed.scan name = .ok (some (.file template)) →
    s.world.host.files = start.world.host.files
  texts : ∀ ρ ∈ new, r.ReadyFrom limit start (new.length * K) (.value ρ.locator.element)

section

variable {r : Resolver Interactor} {limit : Nat} {named : String → Prop} {start : State} {K : Nat}
  {new : List LiveReading} {s : State}

theorem Ripe.of_host (h : r.Ripe limit named start K new s) {t : State}
    (hhost : t.world.host = s.world.host) : r.Ripe limit named start K new t :=
  ⟨fun hname hscan => by rw [hhost, h.files hname hscan], h.texts⟩

/-- No answer changes files that are looked up. -/
theorem Ripe.answered (h : r.Ripe limit named start K new s)
    (hr : r.Rehearsable start.store.unaddressed named) (hsteady : r.evaluators.Steady)
    {name : String} {b : BoundAttribute} (hname : named name)
    (hscan : start.store.unaddressed.scan name = .ok (some b)) {w : World}
    (hw : r.Answered b s.world w) : r.Ripe limit named start K new { s with world := w } := by
  refine ⟨fun {file template} hfile hscanFile => ?_, h.texts⟩
  rw [← h.files hfile hscanFile]
  rcases hw with rfl | ⟨q, hq, rfl⟩
  · rfl
  · refine hsteady.files_consult (fun c hc => ?_) s.world
    obtain ⟨command, rfl⟩ := hq c hc
    exact hr.processes hfile hname hscanFile hscan

/-- The text of an element that is read is one more that the dry run is ready for. -/
theorem Ripe.hearing (h : r.Ripe limit named start K new s) {l : Locator} {w : World}
    {text : String} (hready : r.ReadyFrom limit start ((new.length + 1) * K) (.value l.element))
    (hhost : w.host = s.world.host) :
    r.Ripe limit named start K (⟨l, s.store, s.world, text⟩ :: new) (s.hearing l w text) := by
  refine ⟨fun hname hscan => ?_, List.forall_mem_cons.2 ⟨hready, fun ρ hρ => ?_⟩⟩
  · rw [← h.files hname hscan, ← hhost]
    rfl
  · exact (h.texts ρ hρ).mono (Nat.mul_le_mul_right K (Nat.le_succ _))

/-- What a template or a reference takes one level deeper; without room it takes nothing. -/
theorem readyFrom_below {k j j' : Nat} {q : Quest} {u u' : State} {v : String}
    (hgives : r.Gives (k - 1) q u v u') (h : r.ReadyFrom limit start (j + (k - 1)) q)
    (hj : j ≤ j') : r.ReadyFrom limit start (j' + k - 1) q := by
  cases k with
  | succ k => exact h.mono (by omega)
  | zero =>
      obtain ⟨segments, rfl, hnames⟩ := template_of_gives_zero hgives rfl
      exact .template (by simp [hnames])

/-- The dry run is ready for a lookup that takes the live run from one state to another: it has as
many levels, and as many again as there are in all for each text that was read.  Its files stay as
they were, and it is ready for the texts that are read on the way as well. -/
def Readies (r : Resolver Interactor) (limit : Nat) (named : String → Prop) (start : State)
    (K k : Nat) (q : Quest) (s t : State) : Prop :=
  k ≤ K → ∀ {new more : List LiveReading} {m m' : Prop}, r.Drift named start new m s →
    q.Named named → r.Ripe limit named start K new s → r.Drift named start more m' t →
    r.Ripe limit named start K more t ∧ q.ReadyIn r limit start (more.length * K + k) s

namespace Readies

variable {k : Nat} {rest : List Segment} {name v x y z word : String} {t u t' u' : State}

theorem placeholder (hname : Template.isPlaceholder name = true)
    (h : r.Readies limit named start K k (.template rest) s t) :
    r.Readies limit named start K k (.template (.reference name :: rest)) s t := by
  intro hk new more m m' hs hq hripe ht
  have hnames := Template.names_placeholder hname rest
  simp only [Quest.Named, hnames] at hq
  obtain ⟨hripe, hready⟩ := h hk hs hq hripe ht
  refine ⟨hripe, .template ?_⟩
  rw [hnames]
  exact Ready.template_iff.1 hready

theorem url {address : String} {w : World}
    (hdry : r.dryRun = true → address = Template.placeholder Key.currentUrl)
    (hhost : w.host = s.world.host)
    (hg : r.Gives k (.value Key.currentUrl)
      { s with store := s.store.set Key.currentUrl address, world := w } v t)
    (h : r.Readies limit named start K k (.value Key.currentUrl)
      { s with store := s.store.set Key.currentUrl address, world := w } t) :
    r.Readies limit named start K k (.reference Key.currentUrl) s t := by
  intro hk new more m m' hs hq hripe ht
  obtain ⟨hripe, -⟩ := h hk (hs.bindUrl w hdry) hq (hripe.of_host hhost) ht
  cases k with
  | zero =>
      -- there was room for the value of the address
      obtain ⟨_, hvalue, -⟩ := template_of_gives_zero hg rfl
      cases hvalue
  | succ k => exact ⟨hripe, .url⟩

theorem literal (hscan : s.store.scan name = .ok (some (.literal v))) :
    r.Readies limit named start K (k + 1) (.value name) s s := by
  intro hk new more m m' hs hq hripe ht
  obtain rfl := hs.new_eq ht rfl
  exact ⟨hripe, fun heq => .literal (heq.symm.trans hscan)⟩

theorem default (hscan : s.store.scan name = .ok none) (hdefault : r.defaults name = some v) :
    r.Readies limit named start K (k + 1) (.value name) s s := by
  intro hk new more m m' hs hq hripe ht
  obtain rfl := hs.new_eq ht rfl
  exact ⟨hripe, fun heq => .default (heq.symm.trans hscan) hdefault⟩

variable (hr : r.Rehearsable start.store.unaddressed named)
include hr

theorem fill (hname : Template.isPlaceholder name = false)
    (hg : r.Gives k (.reference (Text.trim name)) s v t) (hg' : r.Gives k (.template rest) t x u)
    (h : r.Readies limit named start K k (.reference (Text.trim name)) s t)
    (h' : r.Readies limit named start K k (.template rest) t u) :
    r.Readies limit named start K k (.template (.reference name :: rest)) s u := by
  intro hk new more m m' hs hq hripe ht
  have hnames := Template.names_reference hname rest
  simp only [Quest.Named, hnames] at hq
  obtain ⟨hhead, hq⟩ := List.forall_mem_cons.1 hq
  obtain ⟨⟨mid, hmid⟩, -⟩ := drift_of_gives hr.toClosed hg hs hhead
  obtain ⟨hripe, hready⟩ := h hk hs hhead hripe hmid
  obtain ⟨hripe, hrest⟩ := h' hk hmid hq hripe ht
  have hlength := Nat.mul_le_mul_right K (hmid.length_le ht hg')
  refine ⟨hripe, .template ?_⟩
  rw [hnames]
  exact List.forall_mem_cons.2 ⟨hready.mono (by omega), Ready.template_iff.1 hrest⟩

theorem reference (hurl : name ≠ Key.currentUrl) (hg : r.Gives k (.value name) s v t)
    (h : r.Readies limit named start K k (.value name) s t) :
    r.Readies limit named start K k (.reference name) s t := by
  intro hk new more m m' hs hq hripe ht
  obtain ⟨hripe', hready⟩ := h hk hs hq hripe ht
  refine ⟨hripe', .name hurl ?_⟩
  rcases hs.scan_eq_or hr.toClosed hq with heq | ⟨-, hread⟩
  · exact hready heq
  · -- here the live run finds a text that it read before, and the dry run the element again
    obtain ⟨ρ, hρ, rfl⟩ := hread.resolve_left hurl
    have hlength := Nat.mul_le_mul_right K (hs.length_le ht hg)
    exact (hripe.texts ρ hρ).mono (by omega)

theorem heard {l : Locator} {w : World} (hscan : s.store.scan l.element = .ok none)
    (hdefault : r.defaults l.element = none) (hg : r.Gives k (.locator l.element) s x t)
    (hhost : w.host = t.world.host)
    (h : r.Readies limit named start K k (.locator l.element) s t) (v : String) :
    r.Readies limit named start K (k + 1) (.value l.element) s (t.hearing l w v) := by
  intro hk new more m m' hs hq hripe ht
  have hσ := hs.scan_eq hr.toClosed hq hscan (by simp)
  obtain ⟨⟨mid, hmid⟩, -⟩ := drift_of_gives hr.toClosed hg hs hq
  obtain ⟨hripe, hready⟩ := h (by omega) hs hq hripe hmid
  -- the dry run is ready for the element, one level below its name, and so for its text
  have hreadings : (t.hearing l w v).readings = ⟨l, t.store, t.world, v⟩ :: t.readings := rfl
  obtain rfl : more = ⟨l, t.store, t.world, v⟩ :: mid := by
    rw [ht.readings, hmid.readings] at hreadings
    exact List.append_cancel_right hreadings
  have hvalue : r.ReadyFrom limit start (mid.length * K + k + 1) (.value l.element) :=
    .element hσ hdefault hready
  have hall : r.ReadyFrom limit start ((mid.length + 1) * K) (.value l.element) :=
    hvalue.mono (by rw [Nat.succ_mul]; omega)
  exact ⟨hripe.hearing hall hhost, fun _ => hall.mono (Nat.le_add_right _ _)⟩

section

variable {element template container : String} {strategy : Strategy}
  (hword : s.store.findWord? (Key.locator element) = some word)
  (hread : Strategy.read word = .ok strategy)
  (htemplate : s.store.findWord? (Key.expression element word) = some template)
  (hg : r.Gives (k - 1) (.template (Template.parse template)) s x t)
  (h : r.Readies limit named start K (k - 1) (.template (Template.parse template)) s t)
include hword hread htemplate hg h

theorem alone (hcontainer : t.store.findWord? (Key.container element word) = none) :
    r.Readies limit named start K (k + 1) (.locator element) s t := by
  intro hk new more m m' hs hq hripe ht
  obtain ⟨hword, htemplate⟩ := hs.located hword hread htemplate
  have hnamed := hr.expressions hq hword htemplate
  obtain ⟨hripe, hready⟩ := h (by omega) hs hnamed hripe ht
  rw [ht.findWord?_eq (Key.settled_container element word)] at hcontainer
  refine ⟨hripe, .locator hword hread htemplate (fun c hc => ?_) (readyFrom_below hg hready le_rfl)⟩
  rw [hcontainer] at hc
  cases hc

theorem inside (hcontainer : t.store.findWord? (Key.container element word) = some container)
    (hg' : r.Gives k (.locator container) t y u)
    (h' : r.Readies limit named start K k (.locator container) t u) :
    r.Readies limit named start K (k + 1) (.locator element) s u := by
  intro hk new more m m' hs hq hripe ht
  obtain ⟨hword, htemplate⟩ := hs.located hword hread htemplate
  have hnamed := hr.expressions hq hword htemplate
  obtain ⟨⟨mid, hmid⟩, -⟩ := drift_of_gives hr.toClosed hg hs hnamed
  obtain ⟨hripe, hready⟩ := h (by omega) hs hnamed hripe hmid
  rw [hmid.findWord?_eq (Key.settled_container element word)] at hcontainer
  obtain ⟨hripe, haround⟩ := h' (by omega) hmid (hr.containers hq hword hcontainer) hripe ht
  have hle := Nat.mul_le_mul_right K (hmid.length_le ht hg')
  refine ⟨hripe, .locator hword hread htemplate (fun c hc => ?_) (readyFrom_below hg hready hle)⟩
  rw [hcontainer] at hc
  cases hc
  exact Ready.located haround

end

variable (hsteady : r.evaluators.Steady)
include hsteady

theorem file {template path : String} {w : World}
    (hscan : s.store.scan name = .ok (some (.file template)))
    (hg : r.Gives (k - 1) (.template (Template.parse template)) s path t)
    (hanswer : Evaluators.consult r.evaluators (.file path) t.world = (.ok v, w))
    (h : r.Readies limit named start K (k - 1) (.template (Template.parse template)) s t) :
    r.Readies limit named start K (k + 1) (.value name) s { t with world := w } := by
  intro hk new more m m' hs hq hripe ht
  have hσ := hs.scan_eq hr.toClosed hq hscan (by simp)
  have hnamed := hr.templates hq hσ template (by simp [BoundAttribute.templates])
  obtain ⟨⟨mid, hmid⟩, htells⟩ := drift_of_gives hr.toClosed hg hs hnamed
  obtain ⟨hripe, hready⟩ := h (by omega) hs hnamed hripe hmid
  obtain rfl := hmid.new_eq ht rfl
  -- the path is settled, so the dry run asks for the file that the live run was given
  obtain ⟨path', hpath⟩ := hr.paths hq hσ
  obtain rfl := htells path' hpath
  refine ⟨⟨fun hname hfile => ?_, hripe.texts⟩, fun _ =>
    .file hσ hpath (v := v) ?_ (readyFrom_below hg hready le_rfl)⟩
  · have hkept := hsteady.files_consult (q := .file path) (by simp) t.world
    rw [hanswer] at hkept
    exact hkept.trans (hripe.files hname hfile)
  · have hsame := hsteady.consult_file path (hripe.files hq hσ)
    rw [hanswer] at hsame
    exact hsame.symm

theorem answer {template : String} {w : World} {b : BoundAttribute}
    (hscan : s.store.scan name = .ok (some b)) (htemplate : b.template? = some template)
    (hfile : ∀ p, b ≠ .file p)
    (hg : r.Gives (k - 1) (.template (Template.parse template)) s x t)
    (hw : r.Answered b t.world w)
    (h : r.Readies limit named start K (k - 1) (.template (Template.parse template)) s t) :
    r.Readies limit named start K (k + 1) (.value name) s { t with world := w } := by
  intro hk new more m m' hs hq hripe ht
  have hb : ∀ v, b ≠ .literal v := by rintro v rfl; cases htemplate
  have hσ := hs.scan_eq hr.toClosed hq hscan (by simpa using hb)
  have hnamed := hr.templates hq hσ template (by simp [(template?_mem htemplate).1])
  obtain ⟨⟨mid, hmid⟩, -⟩ := drift_of_gives hr.toClosed hg hs hnamed
  obtain ⟨hripe, hready⟩ := h (by omega) hs hnamed hripe hmid
  obtain rfl := hmid.new_eq ht rfl
  exact ⟨hripe.answered hr hsteady hq hσ hw,
    fun _ => .answer hσ htemplate hfile (readyFrom_below hg hready le_rfl)⟩

theorem lookup {source : String} {w : World} {b : BoundAttribute}
    (hscan : s.store.scan name = .ok (some b)) (hsource : b.source? = some source)
    (hg₁ : r.Gives (k - 1) (.template (Template.parse source)) s x t)
    (hg₂ : r.Gives (k - 1) (.reference (Text.trim x)) t y u)
    (hg₃ : r.Gives (k - 1) (.template (Template.parse b.expression)) u z u')
    (hg₄ : r.Gives (k - 1) (.template (Template.parse b.target)) u' word t')
    (htype : ∀ s e t, b = .xpath s e t → ∃ type, TargetType.read word = .ok type)
    (hw : r.Answered b t'.world w)
    (h₁ : r.Readies limit named start K (k - 1) (.template (Template.parse source)) s t)
    (h₂ : r.Readies limit named start K (k - 1) (.reference (Text.trim x)) t u)
    (h₃ : r.Readies limit named start K (k - 1) (.template (Template.parse b.expression)) u u')
    (h₄ : r.Readies limit named start K (k - 1) (.template (Template.parse b.target)) u' t') :
    r.Readies limit named start K (k + 1) (.value name) s { t' with world := w } := by
  intro hk new more m m' hs hq hripe ht
  have hc := hr.toClosed
  have hb : ∀ v, b ≠ .literal v := by rintro v rfl; cases hsource
  have hσ := hs.scan_eq hc hq hscan (by simpa using hb)
  have hk' : k - 1 ≤ K := by omega
  obtain ⟨text, htext, hnamed₂⟩ := hc.sources hq hσ hsource
  obtain ⟨type, hword⟩ := hr.targets hq hσ
  obtain ⟨hnamed₁, hnamed₃, hnamed₄⟩ := hc.named_of_source hq hσ hsource
  -- the source and the target type are settled, so they are what was told
  obtain ⟨⟨n₁, d₁⟩, htells⟩ := drift_of_gives hc hg₁ hs hnamed₁
  obtain rfl := htells text htext
  obtain ⟨⟨n₂, d₂⟩, -⟩ := drift_of_gives hc hg₂ d₁ hnamed₂
  obtain ⟨⟨n₃, d₃⟩, -⟩ := drift_of_gives hc hg₃ d₂ hnamed₃
  obtain ⟨⟨n₄, d₄⟩, htells⟩ := drift_of_gives hc hg₄ d₃ hnamed₄
  obtain rfl := htells type hword
  obtain ⟨hripe, hready₁⟩ := h₁ hk' hs hnamed₁ hripe d₁
  obtain ⟨hripe, hready₂⟩ := h₂ hk' d₁ hnamed₂ hripe d₂
  obtain ⟨hripe, hready₃⟩ := h₃ hk' d₂ hnamed₃ hripe d₃
  obtain ⟨hripe, hready₄⟩ := h₄ hk' d₃ hnamed₄ hripe d₄
  obtain rfl := d₄.new_eq ht rfl
  -- readings only grow in number, and so do the levels that are called for
  have hle₃ := Nat.mul_le_mul_right K (d₃.length_le d₄ hg₄)
  have hle₂ := (Nat.mul_le_mul_right K (d₂.length_le d₃ hg₃)).trans hle₃
  have hle₁ := (Nat.mul_le_mul_right K (d₁.length_le d₂ hg₂)).trans hle₂
  exact ⟨hripe.answered hr hsteady hq hσ hw, fun _ => .lookup hσ hsource htext hword htype
    (readyFrom_below hg₁ hready₁ hle₁) (readyFrom_below hg₂ hready₂ hle₂)
    (readyFrom_below hg₃ hready₃ hle₃) (readyFrom_below hg₄ hready₄ le_rfl)⟩

end Readies

/-- **The dry run is ready for what the live run looked up**, with as many levels, and with as many
again as the live run had for each text that was read. -/
theorem ready_of_gives (hlive : r.dryRun = false) (hsteady : r.evaluators.Steady)
    (hr : r.Rehearsable start.store.unaddressed named) {k : Nat} {q : Quest} {t : State}
    {v : String} (h : r.Gives k q s v t) : r.Readies limit named start K k q s t := by
  induction h with
  | nil =>
      intro hk new more m m' hs hq hripe ht
      obtain rfl := hs.new_eq ht rfl
      exact ⟨hripe, .template (by simp [Template.names])⟩
  | text a _ ih =>
      intro hk new more m m' hs hq hripe ht
      obtain ⟨hripe, hready⟩ := ih hk hs hq hripe ht
      have hrefs := Ready.template_iff.1 hready
      exact ⟨hripe, .template hrefs⟩
  | placeholder hname _ ih => exact Readies.placeholder hname ih
  | fill hname hg hg' ih ih' => exact Readies.fill hr hname hg hg' ih ih'
  | url hdry hhost hg ih => exact Readies.url hdry hhost hg ih
  | name hurl hg ih => exact Readies.reference hr hurl hg ih
  | literal hscan => exact Readies.literal hscan
  | default hscan hdefault => exact Readies.default hscan hdefault
  | file hscan hg hanswer ih => exact Readies.file hr hsteady hscan hg hanswer ih
  | answer hscan htemplate hfile hg hw ih =>
      exact Readies.answer hr hsteady hscan htemplate hfile hg hw ih
  | lookup hscan hsource hg₁ hg₂ hg₃ hg₄ htype hw ih₁ ih₂ ih₃ ih₄ =>
      exact Readies.lookup hr hsteady hscan hsource hg₁ hg₂ hg₃ hg₄ htype hw ih₁ ih₂ ih₃ ih₄
  | heard _ hscan hdefault hg hl hhost ih =>
      subst hl
      exact Readies.heard hr hscan hdefault hg hhost ih _
  | unheard hdry | insideDry _ _ _ _ _ hdry => rw [hlive] at hdry; cases hdry
  | alone hword hread htemplate hg hcontainer ih =>
      exact Readies.alone hr hword hread htemplate hg ih hcontainer
  | inside hword hread htemplate hg hcontainer _ hg' ih ih' =>
      exact Readies.inside hr hword hread htemplate hg ih hcontainer hg' ih'

end

/-! ### What the dry run accepts -/

/-- A dry run accepts a lookup under every limit that allows for as many levels again for each of so
many texts, and under the given limit unless it is cut off there. -/
def Accepts {α : Type} (r : Resolver Interactor) (lookup : Resolver Interactor → Lookup α)
    (texts : Nat) (s : State) : Prop :=
  (∀ limit, r.maxDepth + texts * (r.maxDepth + 1) ≤ limit →
      ∃ x t, lookup (r.rehearsal.withLimit limit) s = (.ok x, t)) ∧
    (Finished (lookup r.rehearsal s).1 → ∃ x t, lookup r.rehearsal s = (.ok x, t))

theorem accepts_of_limits {α : Type} {r : Resolver Interactor}
    {lookup : Resolver Interactor → Lookup α} {texts : Nat} {s : State}
    (h : ∀ limit, r.maxDepth + texts * (r.maxDepth + 1) ≤ limit →
      ∃ x t, lookup (r.rehearsal.withLimit limit) s = (.ok x, t))
    (hagree : ∀ limit, r.maxDepth ≤ limit →
      Agree (lookup r.rehearsal) (lookup (r.rehearsal.withLimit limit))) :
    r.Accepts lookup texts s := by
  refine ⟨h, fun hfinished => ?_⟩
  obtain ⟨x, t, hx⟩ := h _ le_rfl
  rw [run_eq_of_finished (hagree _ (Nat.le_add_right _ _)) hfinished] at hx
  exact ⟨x, t, hx⟩

section

variable {r : Resolver Interactor} {named : String → Prop} {s t : State}

/-- What the live run looked up the dry run is given, if it has room for the texts that were read
as well. -/
theorem succeeds_of_gives (hlive : r.dryRun = false) (hsteady : r.evaluators.Steady)
    (hr : r.Rehearsable s.store.unaddressed named) {k : Nat} {q : Quest} {v : String}
    (hq : q.Named named) (h : r.Gives k q s v t) (hk : k ≤ r.maxDepth + 1)
    (hvalue : ∀ name, q = .value name → s.store.scan name = s.store.unaddressed.scan name)
    (limit : Nat) {room : Nat}
    (hroom : (t.readings.length - s.readings.length) * (r.maxDepth + 1) + k ≤ room) :
    q.Succeeds (r.rehearsal.withLimit limit) s.store.unaddressed s.world room := by
  obtain ⟨⟨more, ht⟩, -⟩ := drift_of_gives hr.toClosed h (.refl s) hq
  have hready : q.ReadyIn r limit s (more.length * (r.maxDepth + 1) + k) s :=
    (ready_of_gives hlive hsteady hr h hk (.refl s) hq ⟨fun _ _ => rfl, by simp⟩ ht).2
  have hlength : t.readings.length - s.readings.length = more.length := by
    rw [ht.readings, List.length_append, Nat.add_sub_cancel]
  rw [hlength] at hroom
  refine Ready.succeeds (k := more.length * (r.maxDepth + 1) + k) rfl hsteady ?_ hroom
  cases q with
  | value name => exact hready (hvalue name rfl)
  | _ => exact hready

/-- **A dry run accepts what the live run accepts**, where no source, path or target type is filled
in with what only the page or an evaluator has.  Let names be closed under what is looked up for
them, with sources, paths and target types that are told from bound texts and defaults, and with no
process among them that might write a file that is read.  If the live run gives a value, a locator
or the text of a template, then the dry run, from the same state, gives one too: if the live run
read no text of an element, under the same limit on levels; and otherwise under every limit with
as many levels again for each text that was read, and under the same limit unless it is cut off. -/
theorem dry_run_accepts (hlive : r.dryRun = false) (hsteady : r.evaluators.Steady)
    (hr : r.Rehearsable s.store.unaddressed named) :
    (∀ {name v t}, named name → r.value name s = (.ok v, t) →
        r.Accepts (·.value name) (t.readings.length - s.readings.length) s) ∧
      (∀ {element l t}, named element → r.locator element s = (.ok l, t) →
        r.Accepts (·.locator element) (t.readings.length - s.readings.length) s) ∧
      ∀ {template v t}, (∀ name ∈ Template.names (Template.parse template), named name) →
        r.interpolate template s = (.ok v, t) →
        r.Accepts (·.interpolate template) (t.readings.length - s.readings.length) s := by
  have hkin : Kin s.store.unaddressed s.world s := ⟨rfl, rfl⟩
  refine ⟨fun {name v t} hname h => accepts_of_limits (fun limit hlimit => ?_)
      fun _ hle => agree_value (r := r.rehearsal) hle name,
    fun {element l t} helement h => accepts_of_limits (fun limit hlimit => ?_)
      fun _ hle => agree_locator (r := r.rehearsal) hle element,
    fun {template v t} hnames h => accepts_of_limits (fun limit hlimit => ?_)
      fun _ hle => agree_interpolate (r := r.rehearsal) hle template⟩
  · rcases (Drift.refl s).scan_eq_or hr.toClosed hname with heq | ⟨⟨u, hu⟩, -⟩
    · have hgiven : (Quest.value name).Succeeds _ _ _ (limit + 1) :=
        succeeds_of_gives (q := .value name) hlive hsteady hr hname (gives_of_value h) le_rfl
          (by rintro _ ⟨⟩; exact heq) limit (by omega)
      obtain ⟨x, u, hx, -⟩ := hgiven s hkin heq
      exact ⟨x, u, hx⟩
    · -- only the address of the page has a text that it does not have without its binding
      refine ⟨u, s, ?_⟩
      show (r.rehearsal.withLimit limit).valueAt (limit + 1) name s = _
      rw [valueAt_succ]
      exact valueStep_of_bound hu
  · obtain ⟨x, hgives⟩ := gives_of_locator h
    have hgiven : (Quest.locator element).Succeeds _ _ _ (limit + 1) :=
      succeeds_of_gives (q := .locator element) hlive hsteady hr helement hgives le_rfl
        (fun _ h => by cases h) limit (by omega)
    obtain ⟨l, u, hl, -⟩ := hgiven s hkin
    exact ⟨l, u, hl⟩
  · have hgiven : (Quest.template (Template.parse template)).Succeeds _ _ _ limit :=
      succeeds_of_gives (q := .template (Template.parse template)) hlive hsteady hr hnames
        (gives_of_interpolate h) (Nat.le_succ _) (fun _ h => by cases h) limit (by omega)
    obtain ⟨x, u, hx, -⟩ := hgiven s hkin
    exact ⟨x, u, hx⟩

/-- Means that allow for three levels below the first. -/
def threeDeep : Resolver Interactor := twoDeep.withLimit 3

/-- A label that is looked up in a note on the page, and a heading that is looked up in what the
note names. -/
def labelState : State :=
  Session.begin ⟨[⟨.page, Session.pageName, [("note/locator", "id"), ("note/locator/id", "n"),
    ("label/regex/source", "note"), ("label/regex/expression", "[a-z]+"),
    ("heading/regex/source", "$[note]"), ("heading/regex/expression", "[a-z]+"),
    ("draft", "<p/>")]⟩], []⟩ Session.noteWorld

/-- The names that the label is made of. -/
def labelNames (name : String) : Prop := name = "label" ∨ name = "note"

theorem rehearsable_label : threeDeep.Rehearsable labelState.store.unaddressed labelNames := by
  have hbound {name : String} {b : BoundAttribute} (h : labelNames name)
      (hscan : labelState.store.unaddressed.scan name = .ok (some b)) :
      b = .regex "note" "[a-z]+" := by
    rcases h with rfl | rfl
    · have hlabel : labelState.store.unaddressed.scan "label" =
          .ok (some (.regex "note" "[a-z]+")) := by decide +kernel
      rw [hlabel] at hscan
      cases hscan
      rfl
    · have hnote : labelState.store.unaddressed.scan "note" = .ok none := by decide +kernel
      rw [hnote] at hscan
      cases hscan
  have hlocated {element word : String} (h : labelNames element)
      (hword : labelState.store.unaddressed.findWord? (Key.locator element) = some word) :
      element = "note" ∧ word = "id" := by
    rcases h with rfl | rfl
    · have hlabel : labelState.store.unaddressed.findWord? (Key.locator "label") = none := by
        decide +kernel
      rw [hlabel] at hword
      cases hword
    · have hnote : labelState.store.unaddressed.findWord? (Key.locator "note") = some "id" := by
        decide +kernel
      rw [hnote] at hword
      cases hword
      exact ⟨rfl, rfl⟩
  have hnone {template : String} (h : template ∈ ["note", "[a-z]+"]) :
      Template.names (Template.parse template) = [] := by
    rcases List.mem_cons.1 h with rfl | h
    · decide +kernel
    · rw [List.mem_singleton.1 h]
      decide +kernel
  refine ⟨⟨?templates, ?sources, ?expressions, ?containers, ?apart⟩, ?paths, ?targets, ?processes⟩
  case templates =>
    intro name b hname hscan template ht next hnext
    obtain rfl := hbound hname hscan
    rw [hnone ht] at hnext
    cases hnext
  case sources =>
    intro name b template hname hscan hsource
    obtain rfl := hbound hname hscan
    cases hsource
    exact ⟨"note", by decide +kernel, .inr (by decide +kernel)⟩
  case expressions =>
    intro element word template helement hword htemplate next hnext
    obtain ⟨rfl, rfl⟩ := hlocated helement hword
    have hexpression : labelState.store.unaddressed.findWord? (Key.expression "note" "id") =
        some "n" := by decide +kernel
    have hnames : Template.names (Template.parse "n") = [] := by decide +kernel
    rw [hexpression] at htemplate
    cases htemplate
    rw [hnames] at hnext
    cases hnext
  case containers =>
    intro element word container helement hword hcontainer
    obtain ⟨rfl, rfl⟩ := hlocated helement hword
    have hcontained : labelState.store.unaddressed.findWord? (Key.container "note" "id") =
        none := by decide +kernel
    rw [hcontained] at hcontainer
    cases hcontainer
  case apart => rintro element name (rfl | rfl) (rfl | rfl) <;> decide +kernel
  case paths =>
    intro name template hname hscan
    cases hbound hname hscan
  case targets =>
    intro name b hname hscan
    obtain rfl := hbound hname hscan
    exact ⟨"", by decide +kernel⟩
  case processes =>
    intro name other template command hname _ hscan
    cases hbound hname hscan

/-- The live run reads the note and finds the label in it.  The dry run accepts the label, with
as many levels again for the one text that was read. -/
theorem label_accepted :
    threeDeep.dryRun = false ∧ threeDeep.evaluators.Steady ∧
      threeDeep.Rehearsable labelState.store.unaddressed labelNames ∧
      (threeDeep.value "label" labelState).1.toOption = some "regex([a-z]+)" ∧
      (threeDeep.value "label" labelState).2.readings.length = 1 ∧
      threeDeep.Accepts (·.value "label") 1 labelState := by
  have hlabel : (threeDeep.value "label" labelState).1.toOption = some "regex([a-z]+)" := by
    decide +kernel
  have hread : (threeDeep.value "label" labelState).2.readings.length = 1 := by decide +kernel
  refine ⟨rfl, Evaluators.steady_echo, rehearsable_label, hlabel, hread, ?_⟩
  rcases hrun : threeDeep.value "label" labelState with ⟨e | v, t⟩
  · rw [hrun] at hlabel
    cases hlabel
  · rw [hrun] at hread
    have haccepts := (dry_run_accepts rfl Evaluators.steady_echo rehearsable_label).1
      (.inl rfl : labelNames "label") hrun
    rwa [hread] at haccepts

/-- The live run looks the heading up in what the note names; the dry run refuses it, as nothing is
called like the placeholder of the note. -/
theorem heading_refused :
    (threeDeep.value "heading" labelState).1.toOption = some "regex([a-z]+)" ∧
      (threeDeep.rehearsal.value "heading" labelState).1 =
        .error (.unbound (Template.placeholder "note")) :=
  ⟨by decide +kernel, by decide +kernel⟩

end

end Resolver

end Bindery
