import Bindery.Proofs.Cutoff
import Bindery.Proofs.Drift

/-!
# Bindery — Proofs — Readiness

When a dry run gives a value, told from the bindings and the files.  `Ready k q` has one rule for
each way to come by a value, as `Gives` has, but for the states: what is looked up has to be bound,
files have to be there and target types have to be known.  Where that is so, a dry run with room
for `k` levels or more gives a value (`Ready.succeeds`).

A source, a path or a target type has to be settled: a dry run would fill it in with placeholders
otherwise, and would look for a name, a file or a type that is called so.
-/

namespace Bindery

open Template (Segment)

/-! ### Evaluators and files -/

namespace Evaluators

/-- What a file holds is told from the files, and only processes change these. -/
structure Steady (e : Evaluators) : Prop where
  answers : ∀ path w w', w'.host.files = w.host.files →
    (e (.file path) w').1 = (e (.file path) w).1
  keeps : ∀ q w, (∀ c, q ≠ .process c) → (e q w).2.host.files = w.host.files

theorem steady_echo : Steady echo where
  answers _ _ _ _ := rfl
  keeps q _ _ := by cases q <;> rfl

theorem steady_standard : Steady standard where
  answers path w w' h := by
    show fileText w'.host.files path = fileText w.host.files path
    rw [h]
  keeps q w hq := by
    have hrun (script : String) (args : List ScriptArgument) :
        Act.Within World.besideHost (runScript script args) :=
      .failingAs _ (World.within_besideHost_browse _)
    have hwithin : Act.Within World.besideHost (standard q) := by
      cases q with
      | script s => exact .bind (hrun s _) fun _ => .pure _
      | xpath e s t => exact .bind (hrun _ _) fun _ => .ofExcept _
      | regex e s => exact .ofExcept _
      | jsonPath e s => exact .ofExcept _
      | process c => exact absurd rfl (hq c)
      | file p => exact .bind .get fun _ => .ofExcept _
    rw [Act.Within.ofRelation_iff.1 hwithin w]

variable {e : Evaluators}

theorem Steady.consult_file (h : Steady e) (path : String) {w w' : World}
    (hfiles : w'.host.files = w.host.files) :
    (consult e (.file path) w').1 = (consult e (.file path) w).1 :=
  h.answers path _ _ hfiles

theorem Steady.files_consult (h : Steady e) {q : Query} (hq : ∀ c, q ≠ .process c) (w : World) :
    (consult e q w).2.host.files = w.host.files :=
  h.keeps q _ hq

end Evaluators

namespace Resolver

/-! ### What a dry run can look up -/

/-- A dry run has what it takes to look something up with room for so many levels. -/
inductive Ready (r : Resolver Interactor) (σ : ScopeStack) (w : World) : Nat → Quest → Prop where
  | url {k : Nat} : Ready r σ w (k + 1) (.reference Key.currentUrl)
  | name {k : Nat} {name : String} : name ≠ Key.currentUrl → Ready r σ w k (.value name) →
      Ready r σ w k (.reference name)
  | template {k : Nat} {segments : List Segment} :
      (∀ name ∈ Template.names segments, Ready r σ w k (.reference name)) →
      Ready r σ w k (.template segments)
  | literal {k : Nat} {name v : String} : σ.scan name = .ok (some (.literal v)) →
      Ready r σ w (k + 1) (.value name)
  | default {k : Nat} {name v : String} : σ.scan name = .ok none → r.defaults name = some v →
      Ready r σ w (k + 1) (.value name)
  | file {k : Nat} {name template path v : String} :
      σ.scan name = .ok (some (.file template)) →
      Template.settled? (r.known σ) (Template.parse template) = some path →
      (Evaluators.consult r.evaluators (.file path) w).1 = .ok v →
      Ready r σ w (k - 1) (.template (Template.parse template)) → Ready r σ w (k + 1) (.value name)
  | answer {k : Nat} {name template : String} {b : BoundAttribute} :
      σ.scan name = .ok (some b) → b.template? = some template → (∀ p, b ≠ .file p) →
      Ready r σ w (k - 1) (.template (Template.parse template)) → Ready r σ w (k + 1) (.value name)
  | lookup {k : Nat} {name source text word : String} {b : BoundAttribute} :
      σ.scan name = .ok (some b) → b.source? = some source →
      Template.settled? (r.known σ) (Template.parse source) = some text →
      Template.settled? (r.known σ) (Template.parse b.target) = some word →
      (∀ s e t, b = .xpath s e t → ∃ type, TargetType.read word = .ok type) →
      Ready r σ w (k - 1) (.template (Template.parse source)) →
      Ready r σ w (k - 1) (.reference (Text.trim text)) →
      Ready r σ w (k - 1) (.template (Template.parse b.expression)) →
      Ready r σ w (k - 1) (.template (Template.parse b.target)) → Ready r σ w (k + 1) (.value name)
  | element {k : Nat} {name : String} : σ.scan name = .ok none → r.defaults name = none →
      Ready r σ w k (.locator name) → Ready r σ w (k + 1) (.value name)
  | locator {k : Nat} {element word template : String} {strategy : Strategy} :
      σ.findWord? (Key.locator element) = some word → Strategy.read word = .ok strategy →
      σ.findWord? (Key.expression element word) = some template →
      (∀ container, σ.findWord? (Key.container element word) = some container →
        ∃ around, σ.findWord? (Key.locator container) = some around) →
      Ready r σ w (k - 1) (.template (Template.parse template)) →
      Ready r σ w (k + 1) (.locator element)

namespace Ready

variable {r : Resolver Interactor} {σ : ScopeStack} {w : World} {k : Nat} {q : Quest}

/-- More room does no harm. -/
theorem mono (h : r.Ready σ w k q) {k' : Nat} (hk : k ≤ k') : r.Ready σ w k' q := by
  have pred {n n' : Nat} (h : n + 1 ≤ n' + 1) : n - 1 ≤ n' - 1 :=
    Nat.sub_le_sub_right (Nat.le_of_succ_le_succ h) 1
  induction h generalizing k' with
  | name hname _ ih => exact .name hname (ih hk)
  | template _ ih => exact .template fun name hname => ih name hname hk
  | url => cases hk <;> exact .url
  | literal hscan => cases hk <;> exact .literal hscan
  | default hscan hdefault => cases hk <;> exact .default hscan hdefault
  | file hscan hpath hfile _ ih =>
      cases k' with
      | zero => cases hk
      | succ k' => exact .file hscan hpath hfile (ih (pred hk))
  | answer hscan htemplate hb _ ih =>
      cases k' with
      | zero => cases hk
      | succ k' => exact .answer hscan htemplate hb (ih (pred hk))
  | lookup hscan hsource htext hword htype _ _ _ _ ih₁ ih₂ ih₃ ih₄ =>
      cases k' with
      | zero => cases hk
      | succ k' =>
          have hk := pred hk
          exact .lookup hscan hsource htext hword htype (ih₁ hk) (ih₂ hk) (ih₃ hk) (ih₄ hk)
  | element hscan hdefault _ ih =>
      cases k' with
      | zero => cases hk
      | succ k' => exact .element hscan hdefault (ih (Nat.le_of_succ_le_succ hk))
  | locator hword hread htemplate hcontainer _ ih =>
      cases k' with
      | zero => cases hk
      | succ k' => exact .locator hword hread htemplate hcontainer (ih (pred hk))

theorem template_iff {segments : List Segment} : r.Ready σ w k (.template segments) ↔
    ∀ name ∈ Template.names segments, r.Ready σ w k (.reference name) := by
  refine ⟨fun h => ?_, .template⟩
  cases h with
  | template hrefs => exact hrefs

theorem located {element : String} (h : r.Ready σ w k (.locator element)) :
    ∃ word, σ.findWord? (Key.locator element) = some word := by
  cases h with
  | locator hword => exact ⟨_, hword⟩

theorem not_reference_zero {name : String} : ¬ r.Ready σ w 0 (.reference name) := by
  intro h
  cases h with
  | name _ hvalue => cases hvalue

end Ready

/-! ### What a dry run gives -/

section

variable {α β : Type} (σ : ScopeStack) (w : World)

/-- A state with these bindings, the address of the page aside, and with the files of a world. -/
structure Kin (s : State) : Prop where
  store : s.store.unaddressed = σ
  files : s.world.host.files = w.host.files

/-- A lookup gives something from every such state, and leaves one. -/
def Succeeds (P : α → Prop) (a : Lookup α) : Prop :=
  ∀ d, Kin σ w d → ∃ x t, a d = (.ok x, t) ∧ Kin σ w t ∧ P x

variable {σ w}

namespace Kin

variable {s : State}

theorem scan_eq (h : Kin σ w s) {name : String} (hname : name ≠ Key.currentUrl) :
    s.store.scan name = σ.scan name := by
  rw [← h.store]
  refine s.store.reframed_unaddressed.scan_eq fun key hkey => ?_
  rw [List.mem_singleton.1 hkey]
  exact AttributeKind.ofKey?_currentUrl hname

theorem findWord?_eq (h : Kin σ w s) {key : String} (hkey : Key.Settled key) :
    s.store.findWord? key = σ.findWord? key := by
  rw [← h.store]
  exact s.store.reframed_unaddressed.findWord?_eq fun hmem =>
    hkey.ne_currentUrl (List.mem_singleton.1 hmem)

theorem bindUrl (h : Kin σ w s) (address : String) :
    Kin σ w { s with store := s.store.set Key.currentUrl address } where
  store := by rw [← h.store]; exact ScopeStack.set_set _ _ _ _
  files := h.files

end Kin

namespace Succeeds

variable {P : α → Prop} {Q : β → Prop} {a : Lookup α}

theorem pure {x : α} (h : P x) : Succeeds σ w P (Pure.pure x : Lookup α) :=
  fun d hd => ⟨x, d, rfl, hd, h⟩

theorem mono {P' : α → Prop} (h : Succeeds σ w P a) (hP : ∀ x, P x → P' x) :
    Succeeds σ w P' a := by
  intro d hd
  obtain ⟨x, t, hx, ht, hPx⟩ := h d hd
  exact ⟨x, t, hx, ht, hP x hPx⟩

theorem bind {f : α → Lookup β} (ha : Succeeds σ w P a) (hf : ∀ x, P x → Succeeds σ w Q (f x)) :
    Succeeds σ w Q (a >>= f) := by
  intro d hd
  obtain ⟨x, t, hx, ht, hPx⟩ := ha d hd
  rw [Act.bind_run_ok hx]
  exact hf x hPx t ht

theorem failingAs (ha : Succeeds σ w P a) (f : ResolutionFault → ResolutionFault) :
    Succeeds σ w P (a.failingAs f) := by
  intro d hd
  obtain ⟨x, t, hx, ht, hPx⟩ := ha d hd
  exact ⟨x, t, Act.failingAs_run_ok f hx, ht, hPx⟩

theorem word? {key : String} (hkey : Key.Settled key) :
    Succeeds σ w (· = σ.findWord? key) (Resolver.word? key) :=
  fun d hd => ⟨_, d, word?_run key d, hd, hd.findWord?_eq hkey⟩

theorem locatorWord {element key word : String} (hkey : Key.Settled key)
    (hword : σ.findWord? key = some word) :
    Succeeds σ w (· = word) (Resolver.locatorWord element key) :=
  fun d hd => ⟨word, d, locatorWord_run ((hd.findWord?_eq hkey).trans hword), hd, rfl⟩

theorem strategyOf {element word : String} {strategy : Strategy}
    (h : Strategy.read word = .ok strategy) :
    Succeeds σ w (fun _ => True) (Resolver.strategyOf element word) :=
  fun d hd => ⟨strategy, d, strategyOf_run h element d, hd, trivial⟩

/-- A template is filled in if each of its references gives a value. -/
theorem expand {known : String → Option String} {value : String → Lookup String}
    {segments : List Segment}
    (h : ∀ name, Text.trim name ∈ Template.names segments →
      Succeeds σ w (fun v => ∀ u, known (Text.trim name) = some u → v = u) (value name)) :
    Succeeds σ w (fun v => ∀ u, Template.settled? known segments = some u → v = u)
      (expand value segments) := by
  induction segments with
  | nil => exact .pure fun u hu => Option.some.inj hu
  | cons segment rest ih =>
      cases segment with
      | text a =>
          refine .bind (ih h) fun v hv => .pure fun u hu => ?_
          obtain ⟨x, hx, rfl⟩ := Template.of_settled?_text hu
          rw [hv x hx]
      | reference name =>
          rw [Resolver.expand]
          split
          next hname =>
            rw [Template.names_placeholder hname] at h
            refine .bind (ih h) fun v hv => .pure fun u hu => ?_
            obtain ⟨x, hx, rfl⟩ := Template.of_settled?_placeholder hname hu
            rw [hv x hx]
          next hname =>
            have hname : Template.isPlaceholder name = false := by simpa using hname
            rw [Template.names_reference hname] at h
            refine .bind (h name List.mem_cons_self) fun v hv => .bind
              (ih fun n hn => h n (List.mem_cons_of_mem _ hn)) fun x hx => .pure fun u hu => ?_
            obtain ⟨v', x', hv', hx', rfl⟩ := Template.of_settled?_reference hname hu
            rw [hv v' hv', hx x' hx']

end Succeeds

end

variable {r : Resolver Interactor} {σ : ScopeStack} {w : World} {k room : Nat}

/-- With so much room, what is looked up is given, and it is the text that is known. -/
def Quest.Succeeds (r : Resolver Interactor) (σ : ScopeStack) (w : World) (room : Nat) :
    Quest → Prop
  | .value name => ∀ d, Kin σ w d → d.store.scan name = σ.scan name →
      ∃ v t, r.valueAt room name d = (.ok v, t) ∧ Kin σ w t ∧ ∀ u, r.known σ name = some u → v = u
  | .reference name => Resolver.Succeeds σ w (fun v => ∀ u, r.known σ name = some u → v = u)
      (r.reference (r.valueAt room) name)
  | .template segments => Resolver.Succeeds σ w
      (fun v => ∀ u, Template.settled? (r.known σ) segments = some u → v = u)
      (expand (r.written (r.valueAt room)) segments)
  | .locator element => Resolver.Succeeds σ w (fun l => l.element = element)
      (r.locatorAt room element)

namespace Succeeds

theorem inner {segments : List Segment} (hroom : k ≤ room)
    (hready : r.Ready σ w (k - 1) (.template segments))
    (h : ∀ {room}, k - 1 ≤ room → (Quest.template segments).Succeeds r σ w room) :
    Succeeds σ w (fun v => ∀ u, Template.settled? (r.known σ) segments = some u → v = u)
      (Resolver.expand (r.inner room) segments) := by
  cases room with
  | succ room => exact h (by omega)
  | zero =>
      -- without room for another level there is no reference in the template
      obtain rfl : k = 0 := Nat.le_zero.1 hroom
      refine .expand fun name hname => ?_
      exact absurd (Ready.template_iff.1 hready _ hname) Ready.not_reference_zero

theorem innerSource {text : String}
    (h : (Quest.reference (Text.trim text)).Succeeds r σ w (room - 1)) :
    Succeeds σ w (fun _ => True) (r.innerSource room text) := by
  unfold Resolver.innerSource written
  exact Succeeds.mono h fun _ _ => trivial

theorem ask (hdry : r.dryRun = true) {name : String} {b : BoundAttribute}
    (hscan : σ.scan name = .ok (some b)) (hb : ∀ v, b ≠ .literal v) (kind : AttributeKind)
    (q : Query) :
    Succeeds σ w (fun v => ∀ u, r.known σ name = some u → v = u) (r.ask name kind q) := by
  rw [ask_dry hdry]
  refine .pure fun u hu => ?_
  rw [known_of_scan hscan hb] at hu
  cases hu

theorem askFile (hsteady : r.evaluators.Steady) {name template path v : String}
    (hscan : σ.scan name = .ok (some (.file template)))
    (hfile : (Evaluators.consult r.evaluators (.file path) w).1 = .ok v) :
    Succeeds σ w (fun v => ∀ u, r.known σ name = some u → v = u) (r.askFile name path) := by
  intro d hd
  have hrun : State.inWorld (Evaluators.consult r.evaluators (.file path)) d = (.ok v,
      { d with world := (Evaluators.consult r.evaluators (.file path) d.world).2 }) := by
    rw [State.inWorld_run, (hsteady.consult_file path hd.files).trans hfile]
  refine ⟨v, _, Act.failingAs_run_ok _ hrun, ⟨hd.store, ?_⟩, fun u hu => ?_⟩
  · exact (hsteady.files_consult (q := .file path) (by simp) d.world).trans hd.files
  · rw [known_of_scan hscan (by simp)] at hu
    cases hu

section

variable {value source : String → Lookup String} {name : String} {b : BoundAttribute}

theorem file (hsteady : r.evaluators.Steady) {template path v : String}
    (hscan : σ.scan name = .ok (some (.file template)))
    (hfile : (Evaluators.consult r.evaluators (.file path) w).1 = .ok v)
    (h : Succeeds σ w (· = path) (Resolver.expand value (Template.parse template))) :
    Succeeds σ w (fun v => ∀ u, r.known σ name = some u → v = u)
      (r.evaluate value source name (.file template)) := by
  refine .bind h fun x hx => ?_
  rw [hx]
  exact .askFile hsteady hscan hfile

theorem answer (hdry : r.dryRun = true) (hscan : σ.scan name = .ok (some b)) {template : String}
    (htemplate : b.template? = some template) (hfile : ∀ p, b ≠ .file p) {P : String → Prop}
    (h : Succeeds σ w P (Resolver.expand value (Template.parse template))) :
    Succeeds σ w (fun v => ∀ u, r.known σ name = some u → v = u)
      (r.evaluate value source name b) := by
  cases b with
  | script s => cases htemplate; exact .bind h fun _ _ => .ask hdry hscan (by simp) _ _
  | process c => cases htemplate; exact .bind h fun _ _ => .ask hdry hscan (by simp) _ _
  | file p => exact absurd rfl (hfile p)
  | _ => cases htemplate

theorem lookup (hdry : r.dryRun = true) (hscan : σ.scan name = .ok (some b))
    {template text word : String} (hsource : b.source? = some template)
    (htype : ∀ s e t, b = .xpath s e t → ∃ type, TargetType.read word = .ok type)
    (htext : Succeeds σ w (· = text) (Resolver.expand value (Template.parse template)))
    (hlooked : Succeeds σ w (fun _ => True) (source text))
    (hexpression : Succeeds σ w (fun _ => True)
      (Resolver.expand value (Template.parse b.expression)))
    (hword : Succeeds σ w (· = word) (Resolver.expand value (Template.parse b.target))) :
    Succeeds σ w (fun v => ∀ u, r.known σ name = some u → v = u)
      (r.evaluate value source name b) := by
  cases b with
  | xpath s e t =>
      cases hsource
      refine .bind htext fun x hx => ?_
      rw [hx]
      refine .bind hlooked fun _ _ => .bind hexpression fun _ _ => .bind hword fun v hv => ?_
      obtain ⟨type, htype⟩ := htype _ e t rfl
      rw [hv]
      simp only [htype]
      exact .ask hdry hscan (by simp) _ _
  | regex s e | jsonPath s e =>
      cases hsource
      refine .bind htext fun x hx => ?_
      rw [hx]
      exact .bind hlooked fun _ _ => .bind hexpression fun _ _ => .ask hdry hscan (by simp) _ _
  | _ => cases hsource

end

theorem inContainer (hdry : r.dryRun = true) {locator : String → Lookup Locator} {word : String}
    {l : Locator}
    (h : ∀ container, σ.findWord? (Key.container l.element word) = some container →
      ∃ around, σ.findWord? (Key.locator container) = some around) :
    Succeeds σ w (· = l) (r.inContainer locator word l) := by
  refine .bind (.word? (Key.settled_container _ _)) fun found hfound => ?_
  cases found with
  | none => exact .pure rfl
  | some container =>
      obtain ⟨around, haround⟩ := h container hfound.symm
      simp only [hdry, if_true]
      exact .bind (.locatorWord (Key.settled_locator container) haround) fun _ _ => .pure rfl

theorem locatorStep (hdry : r.dryRun = true) {value : String → Lookup String}
    {locator : String → Lookup Locator} {element word template : String} {strategy : Strategy}
    (hword : σ.findWord? (Key.locator element) = some word)
    (hread : Strategy.read word = .ok strategy)
    (htemplate : σ.findWord? (Key.expression element word) = some template)
    (hcontainer : ∀ container, σ.findWord? (Key.container element word) = some container →
      ∃ around, σ.findWord? (Key.locator container) = some around) {P : String → Prop}
    (h : Succeeds σ w P (Resolver.expand value (Template.parse template))) :
    Succeeds σ w (fun l => l.element = element) (r.locatorStep value locator element) := by
  refine .bind (.locatorWord (Key.settled_locator element) hword) fun _ he => ?_
  rw [he]
  refine .bind (.strategyOf hread) fun strategy _ =>
    .bind (.locatorWord (Key.settled_expression hread element) htemplate) fun _ he => ?_
  rw [he]
  refine .bind h fun expression _ => ?_
  have hl : Succeeds σ w (· = Locator.plain element strategy expression)
      (r.inContainer locator word (Locator.plain element strategy expression)) :=
    inContainer hdry hcontainer
  refine hl.mono fun l hl => ?_
  rw [hl]
  rfl

end Succeeds

namespace Ready

/-- What a dry run is ready for it gives. -/
theorem succeeds {q : Quest} (hdry : r.dryRun = true) (hsteady : r.evaluators.Steady)
    (h : r.Ready σ w k q) (hroom : k ≤ room) : q.Succeeds r σ w room := by
  have pred {k room : Nat} (h : k + 1 ≤ room) : ∃ n, room = n + 1 ∧ k ≤ n :=
    ⟨room - 1, by omega⟩
  induction h generalizing room with
  | @url k =>
      intro d hd
      obtain ⟨room, rfl, -⟩ := pred hroom
      let address := Template.placeholder Key.currentUrl
      let d' : State := { d with store := d.store.set Key.currentUrl address }
      have hscan : d'.store.scan Key.currentUrl = .ok (some (.literal address)) :=
        ScopeStack.scan_set_self (by decide) d.store
      have hrun : r.reference (r.valueAt (room + 1)) Key.currentUrl d = (.ok address, d') := by
        rw [reference, if_pos rfl, bindCurrentUrl_dry hdry, valueAt_succ]
        exact valueStep_of_bound hscan
      refine ⟨address, d', hrun, hd.bindUrl address, fun u hu => ?_⟩
      rw [known_currentUrl] at hu
      cases hu
  | @name k name hname _ ih =>
      intro d hd
      rw [reference_of_ne hname]
      exact ih hroom d hd (hd.scan_eq hname)
  | template _ ih => exact .expand fun name hname => ih _ hname hroom
  | @literal k name v hscan =>
      intro d hd hsame
      obtain ⟨room, rfl, -⟩ := pred hroom
      refine ⟨v, d, ?_, hd, fun u hu => eq_of_known hu (.literal hscan)⟩
      rw [valueAt_succ]
      exact valueStep_of_bound (hsame.trans hscan)
  | @default k name v hscan hdefault =>
      intro d hd hsame
      obtain ⟨room, rfl, -⟩ := pred hroom
      refine ⟨v, d, ?_, hd, fun u hu => eq_of_known hu (.default hscan hdefault)⟩
      rw [valueAt_succ, valueStep_of_unbound (hsame.trans hscan), unboundValue, hdefault]
      rfl
  | @file k name template path v hscan hpath hfile hready ih =>
      intro d hd hsame
      obtain ⟨room, rfl, hk⟩ := pred hroom
      rw [valueAt_succ, valueStep_of_bound (hsame.trans hscan)]
      exact Succeeds.file hsteady hscan hfile
        ((Succeeds.inner hk hready ih).mono fun x hx => hx path hpath) d hd
  | @answer k name template b hscan htemplate hfile hready ih =>
      intro d hd hsame
      obtain ⟨room, rfl, hk⟩ := pred hroom
      rw [valueAt_succ, valueStep_of_bound (hsame.trans hscan)]
      exact Succeeds.answer hdry hscan htemplate hfile (.inner hk hready ih) d hd
  | @lookup k name source text word b hscan hsource htext hword htype hr _ hr' hr'' ih ihfound ih'
      ih'' =>
      intro d hd hsame
      obtain ⟨room, rfl, hk⟩ := pred hroom
      rw [valueAt_succ, valueStep_of_bound (hsame.trans hscan)]
      exact Succeeds.lookup hdry hscan hsource htype
        ((Succeeds.inner hk hr ih).mono fun x hx => hx text htext)
        (.innerSource (ihfound (Nat.sub_le_sub_right hk 1)))
        ((Succeeds.inner hk hr' ih').mono fun _ _ => trivial)
        ((Succeeds.inner hk hr'' ih'').mono fun x hx => hx word hword) d hd
  | @element k name hscan hdefault hready ih =>
      intro d hd hsame
      obtain ⟨room, rfl, hk⟩ := pred hroom
      rw [valueAt_succ, valueStep_of_unbound (hsame.trans hscan), unboundValue, hdefault]
      refine Succeeds.bind (.failingAs (ih hk) _) (fun l _ => ?_) d hd
      rw [liveText_dry hdry]
      refine .pure fun u hu => ?_
      rw [known_of_unbound hscan hdefault] at hu
      cases hu
  | @locator k element word template strategy hword hread htemplate hcontainer hready ih =>
      obtain ⟨room, rfl, hk⟩ := pred hroom
      unfold Quest.Succeeds
      rw [locatorAt_succ]
      exact .locatorStep hdry hword hread htemplate hcontainer (.inner hk hready ih)

end Ready

end Resolver

end Bindery
