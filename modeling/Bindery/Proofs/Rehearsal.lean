import Bindery.Proofs.DryRun
import Bindery.Proofs.Reframing

/-!
# Bindery — Proofs — Rehearsal

Which files a dry run has read.  A path is what the template of a file binding spells, where a
reference stands for a text that is bound or a default, for what a file holds, or, if only the page
or an evaluator has its value, for a placeholder (`Resolver.Stands`).  So a placeholder that the
run made up is in a path only where the template of the path refers to such a name; the other
templates are settled before the run (`Template.settled?`).

Lookups of a dry run set no key but that of the address of the page, to a placeholder, so all of
this is told from the bindings that were there before (`Rehearsed`).
-/

namespace Bindery

open Template (Segment)

theorem Act.failingAs_snd {τ ε ε' α : Type} (a : Act τ ε α) (f : ε → ε') (s : τ) :
    (a.failingAs f s).2 = (a s).2 := by
  unfold failingAs
  rcases a s with ⟨_ | _, _⟩ <;> rfl

/-! ### Templates -/

namespace Template

/-- What a template spells if each reference stands for some text. -/
inductive Spells (stands : String → String → Prop) : List Segment → String → Prop where
  | nil : Spells stands [] ""
  | text (s : String) {rest : List Segment} {t : String} :
      Spells stands rest t → Spells stands (.text s :: rest) (s ++ t)
  | placeholder {name : String} {rest : List Segment} {t : String} :
      isPlaceholder name = true → Spells stands rest t →
      Spells stands (.reference name :: rest) ((Segment.reference name).write ++ t)
  | reference {name v : String} {rest : List Segment} {t : String} :
      isPlaceholder name = false → stands (Text.trim name) v → Spells stands rest t →
      Spells stands (.reference name :: rest) (v ++ t)

/-- The text of segments, if the text of each name that they refer to is known. -/
def settled? (known : String → Option String) : List Segment → Option String
  | [] => some ""
  | .text s :: rest => (settled? known rest).map (s ++ ·)
  | .reference name :: rest =>
    if isPlaceholder name then (settled? known rest).map ((Segment.reference name).write ++ ·)
    else do
      let v ← known (Text.trim name)
      let t ← settled? known rest
      return v ++ t

section

variable {known : String → Option String} {rest : List Segment} {u : String}

theorem of_settled?_text {a : String} (h : settled? known (.text a :: rest) = some u) :
    ∃ t, settled? known rest = some t ∧ u = a ++ t := by
  obtain ⟨t, ht, rfl⟩ := Option.map_eq_some_iff.1 h
  exact ⟨t, ht, rfl⟩

theorem of_settled?_placeholder {name : String} (hname : isPlaceholder name = true)
    (h : settled? known (.reference name :: rest) = some u) :
    ∃ t, settled? known rest = some t ∧ u = (Segment.reference name).write ++ t := by
  rw [settled?, if_pos hname] at h
  obtain ⟨t, ht, rfl⟩ := Option.map_eq_some_iff.1 h
  exact ⟨t, ht, rfl⟩

theorem of_settled?_reference {name : String} (hname : isPlaceholder name = false)
    (h : settled? known (.reference name :: rest) = some u) :
    ∃ v t, known (Text.trim name) = some v ∧ settled? known rest = some t ∧ u = v ++ t := by
  rw [settled?, if_neg (by simp [hname])] at h
  obtain ⟨v, hv, h⟩ := Option.bind_eq_some_iff.1 h
  obtain ⟨t, ht, h⟩ := Option.bind_eq_some_iff.1 h
  exact ⟨v, t, hv, ht, (Option.some.inj h).symm⟩

end

/-- A template that is settled spells nothing else. -/
theorem eq_of_settled? {known : String → Option String} {stands : String → String → Prop}
    (hknown : ∀ {name u v}, known name = some u → stands name v → v = u) {segments : List Segment}
    {t u : String} (ht : Spells stands segments t) (hu : settled? known segments = some u) :
    t = u := by
  induction ht generalizing u with
  | nil => exact Option.some.inj hu
  | text s _ ih =>
      obtain ⟨w, hw, rfl⟩ := of_settled?_text hu
      rw [ih hw]
  | placeholder hname _ ih =>
      obtain ⟨w, hw, rfl⟩ := of_settled?_placeholder hname hu
      rw [ih hw]
  | reference hname hv _ ih =>
      obtain ⟨v', w, hv', hw, rfl⟩ := of_settled?_reference hname hu
      rw [hknown hv' hv, ih hw]

end Template

namespace Resolver

variable (r : Resolver Interactor) (σ : ScopeStack)

/-- The same means in a dry run. -/
def rehearsal : Resolver Interactor := { r with dryRun := true }

/-! ### What a reference stands for -/

/-- The text of a name that stands in the bindings or the defaults. -/
def known (name : String) : Option String :=
  if name = Key.currentUrl then none
  else match σ.scan name with
    | .ok (some (.literal v)) => some v
    | .ok none => r.defaults name
    | _ => none

/-- What a name stands for in a dry run. -/
inductive Stands (name : String) : String → Prop where
  | literal {v : String} : σ.scan name = .ok (some (.literal v)) → Stands name v
  | default {v : String} : σ.scan name = .ok none → r.defaults name = some v → Stands name v
  | file {path : String} (v : String) : σ.scan name = .ok (some (.file path)) → Stands name v
  | placeholder : r.known σ name = none → Stands name (Template.placeholder name)

/-- A path is what the template of a file binding spells. -/
def Asks (path : String) : Prop :=
  ∃ name template, σ.scan name = .ok (some (.file template)) ∧
    Template.Spells (r.Stands σ) (Template.parse template) path

variable {r σ}

theorem known_currentUrl : r.known σ Key.currentUrl = none := if_pos rfl

/-- A name that has a binding of another kind than a literal one is not known. -/
theorem known_of_scan {name : String} {b : BoundAttribute} (h : σ.scan name = .ok (some b))
    (hb : ∀ v, b ≠ .literal v) : r.known σ name = none := by
  unfold known
  split
  · rfl
  · rw [h]
    cases b with
    | literal v => exact absurd rfl (hb v)
    | _ => rfl

theorem known_of_unbound {name : String} (h : σ.scan name = .ok none)
    (hdefault : r.defaults name = none) : r.known σ name = none := by
  simp [known, h, hdefault]

theorem eq_of_known {name u v : String} (h : r.known σ name = some u) (hv : r.Stands σ name v) :
    v = u := by
  unfold known at h
  split at h
  · cases h
  next hurl =>
    cases hv with
    | literal hscan => rw [hscan] at h; exact Option.some.inj h
    | default hscan hdefault => rw [hscan] at h; exact Option.some.inj (hdefault.symm.trans h)
    | file v hscan => rw [hscan] at h; cases h
    | placeholder hnone =>
        rw [known, if_neg hurl, h] at hnone
        cases hnone

end Resolver

/-! ### The bindings of a dry run -/

theorem Entries.put_put (key v w : String) (e : Entries) :
    (e.put key v).put key w = e.put key w := by
  simp [put, List.filter_filter]

namespace ScopeStack

theorem set_set (key v w : String) (s : ScopeStack) : (s.set key v).set key w = s.set key w := by
  obtain ⟨pushed, base⟩ := s
  cases pushed with
  | nil => simp [set, Entries.put_put]
  | cons top rest => simp [set, Scope.set, Entries.put_put]

/-- Bindings in which at most the address of the page is bound anew, to its placeholder. -/
def Rehearsing (σ store : ScopeStack) : Prop :=
  store = σ ∨ store = σ.set Key.currentUrl (Template.placeholder Key.currentUrl)

namespace Rehearsing

variable {σ store : ScopeStack}

theorem bindUrl (h : Rehearsing σ store) :
    Rehearsing σ (store.set Key.currentUrl (Template.placeholder Key.currentUrl)) := by
  rcases h with rfl | rfl
  · exact .inr rfl
  · exact .inr (set_set _ _ _ _)

theorem reframed (h : Rehearsing σ store) : Reframed [Key.currentUrl] σ store := by
  rcases h with rfl | rfl
  · exact .refl _ _
  · exact .set _ (.refl _ _) (List.mem_singleton.2 rfl) fun h => absurd rfl h

/-- Each name has the binding it had, but the address of the page may stand for its placeholder. -/
theorem scan_eq_or (h : Rehearsing σ store) (name : String) :
    store.scan name = σ.scan name ∨ name = Key.currentUrl ∧
      store.scan name = .ok (some (.literal (Template.placeholder name))) := by
  by_cases hname : name = Key.currentUrl
  · rcases h with rfl | rfl
    · exact .inl rfl
    · rw [hname]
      exact .inr ⟨rfl, scan_set_self (by decide) σ⟩
  · refine .inl (h.reframed.scan_eq fun key hkey => ?_)
    rw [List.mem_singleton.1 hkey]
    exact AttributeKind.ofKey?_currentUrl hname

end Rehearsing

end ScopeStack

namespace Resolver

open ScopeStack (Rehearsing)

variable {α β : Type} {r : Resolver Interactor} {σ : ScopeStack} {P : α → Prop} {Q : β → Prop}

/-! ### What a lookup of a dry run does -/

/-- What is left by a lookup of a dry run that began in `s`: the bindings are those there were, the
address of the page aside, evaluators were asked for files only, at paths that bindings spell, and
if there is a value it is as it is to be. -/
structure Rehearsed (r : Resolver Interactor) (σ : ScopeStack) (P : α → Prop) (s : State)
    (out : Except ResolutionFault α × State) : Prop where
  store : Rehearsing σ out.2.store
  asked : ∃ paths, r.evaluators.FilesRead s.world paths out.2.world ∧ ∀ path ∈ paths, r.Asks σ path
  gives : ∀ x, out.1 = .ok x → P x

/-- A lookup leaves this whatever was bound to the address of the page before. -/
def Rehearses (r : Resolver Interactor) (σ : ScopeStack) (P : α → Prop) (a : Lookup α) : Prop :=
  ∀ s, Rehearsing σ s.store → r.Rehearsed σ P s (a s)

namespace Rehearses

theorem of_unchanged {a : Lookup α} (h : ∀ s, (a s).2 = s) (hP : ∀ s x, (a s).1 = .ok x → P x) :
    r.Rehearses σ P a := by
  intro s hs
  exact ⟨by rw [h s]; exact hs, ⟨[], by rw [h s]; exact .none, by simp⟩, hP s⟩

theorem pure {x : α} (h : P x) : r.Rehearses σ P (Pure.pure x : Lookup α) :=
  .of_unchanged (fun _ => rfl) fun _ y hy => by cases hy; exact h

theorem throw (f : ResolutionFault) : r.Rehearses σ P (MonadExcept.throw f : Lookup α) :=
  .of_unchanged (fun _ => rfl) fun _ y hy => by cases hy

theorem mono {P' : α → Prop} {a : Lookup α} (h : r.Rehearses σ P a) (hP : ∀ x, P x → P' x) :
    r.Rehearses σ P' a := fun s hs =>
  ⟨(h s hs).store, (h s hs).asked, fun x hx => hP x ((h s hs).gives x hx)⟩

/-- What a lookup gives may be told from what it does, too. -/
theorem of_run {P' : α → Prop} {a : Lookup α} (h : r.Rehearses σ P a)
    (hP : ∀ s x t, a s = (.ok x, t) → P' x) : r.Rehearses σ P' a := fun s hs =>
  ⟨(h s hs).store, (h s hs).asked, fun x hx => hP s x (a s).2 (Prod.ext hx rfl)⟩

theorem bind {a : Lookup α} {f : α → Lookup β} (ha : r.Rehearses σ P a)
    (hf : ∀ x, P x → r.Rehearses σ Q (f x)) : r.Rehearses σ Q (a >>= f) := by
  intro s hs
  have h := ha s hs
  rcases e : a s with ⟨fault | x, t⟩ <;> rw [e] at h
  · rw [Act.bind_run_error e]
    exact ⟨h.store, h.asked, fun y hy => by cases hy⟩
  · rw [Act.bind_run_ok e]
    obtain ⟨paths, hread, hpaths⟩ := h.asked
    have h' := hf x (h.gives x rfl) t h.store
    obtain ⟨later, hread', hlater⟩ := h'.asked
    exact ⟨h'.store,
      ⟨later ++ paths, hread.append hread', List.forall_mem_append.2 ⟨hlater, hpaths⟩⟩, h'.gives⟩

theorem failingAs {a : Lookup α} (ha : r.Rehearses σ P a) (f : ResolutionFault → ResolutionFault) :
    r.Rehearses σ P (a.failingAs f) := by
  intro s hs
  have h := ha s hs
  rcases e : a s with ⟨fault | x, t⟩ <;> rw [e] at h
  · rw [Act.failingAs_run_error f e]
    exact ⟨h.store, h.asked, fun y hy => by cases hy⟩
  · rw [Act.failingAs_run_ok f e]
    exact h

theorem word? (key : String) : r.Rehearses σ (fun _ => True) (word? key) :=
  .of_unchanged (fun _ => rfl) fun _ _ _ => trivial

theorem locatorWord (element key : String) :
    r.Rehearses σ (fun _ => True) (locatorWord element key) := by
  refine .bind (.word? key) fun word _ => ?_
  cases word with
  | none => exact .throw _
  | some v => exact .pure trivial

theorem strategyOf (element word : String) :
    r.Rehearses σ (fun _ => True) (strategyOf element word) := by
  unfold Resolver.strategyOf
  cases Strategy.read word with
  | error u => exact .throw _
  | ok s => exact .pure trivial

/-! ### One level -/

theorem expand {value : String → Lookup String}
    (h : ∀ name, r.Rehearses σ (r.Stands σ (Text.trim name)) (value name)) :
    ∀ segments, r.Rehearses σ (Template.Spells (r.Stands σ) segments) (expand value segments)
  | [] => .pure .nil
  | .text s :: rest => .bind (expand h rest) fun _ ht => .pure (.text s ht)
  | .reference name :: rest => by
      rw [Resolver.expand]
      split
      next hname => exact .bind (expand h rest) fun _ ht => .pure (.placeholder hname ht)
      next hname =>
        exact .bind (h name) fun v hv => .bind (expand h rest) fun _ ht =>
          .pure (.reference (by simpa using hname) hv ht)

theorem reference (hdry : r.dryRun = true) {value : String → Lookup String} {name : String}
    {P : String → Prop} (h : r.Rehearses σ P (value name)) :
    r.Rehearses σ P (r.reference value name) := by
  unfold Resolver.reference
  split
  · refine .bind (P := fun _ => True) (fun s hs => ?_) fun _ _ => h
    rw [bindCurrentUrl_dry hdry]
    exact ⟨hs.bindUrl, ⟨[], .none, by simp⟩, fun _ _ => trivial⟩
  · exact h

theorem askFile {name template path : String} (hscan : σ.scan name = .ok (some (.file template)))
    (hpath : Template.Spells (r.Stands σ) (Template.parse template) path) :
    r.Rehearses σ (r.Stands σ name) (r.askFile name path) := by
  intro s hs
  refine ⟨?_, ⟨[path], ?_, List.forall_mem_singleton.2 ⟨name, template, hscan, hpath⟩⟩,
    fun v _ => .file v hscan⟩
  · rw [Resolver.askFile, Act.failingAs_snd]
    exact hs
  · rw [Resolver.askFile, Act.failingAs_snd]
    exact .more path .none

/-- The value of a binding is one that its name stands for. -/
theorem evaluate (hdry : r.dryRun = true) {value source : String → Lookup String}
    (hv : ∀ name, r.Rehearses σ (r.Stands σ (Text.trim name)) (value name))
    (hs : ∀ name, r.Rehearses σ (fun _ => True) (source name)) {name : String}
    {b : BoundAttribute} (hscan : σ.scan name = .ok (some b)) :
    r.Rehearses σ (r.Stands σ name) (r.evaluate value source name b) := by
  have expanded (template : String) := expand hv (Template.parse template)
  have ask (hb : ∀ v, b ≠ .literal v) (kind : AttributeKind) (q : Query) :
      r.Rehearses σ (r.Stands σ name) (r.ask name kind q) := by
    rw [ask_dry hdry]
    exact .pure (.placeholder (known_of_scan hscan hb))
  cases b with
  | literal v => exact .pure (.literal hscan)
  | script s => exact .bind (expanded s) fun _ _ => ask (by simp) _ _
  | xpath s e t =>
      refine .bind (expanded s) fun text _ => .bind (hs text) fun _ _ => .bind (expanded e)
        fun _ _ => .bind (expanded t) fun word _ => ?_
      cases TargetType.read word with
      | error w => exact .throw _
      | ok target => exact ask (by simp) _ _
  | regex s e | jsonPath s e =>
      exact .bind (expanded s) fun text _ => .bind (hs text) fun _ _ => .bind (expanded e)
        fun _ _ => ask (by simp) _ _
  | process c => exact .bind (expanded c) fun _ _ => ask (by simp) _ _
  | file p => exact .bind (expanded p) fun _ hpath => askFile hscan hpath

theorem unboundValue (hdry : r.dryRun = true) {locator : String → Lookup Locator} {name : String}
    (hl : r.Rehearses σ (fun l => l.element = name) (locator name))
    (hscan : σ.scan name = .ok none) :
    r.Rehearses σ (r.Stands σ name) (r.unboundValue locator name) := by
  unfold Resolver.unboundValue
  cases hdefault : r.defaults name with
  | some v => exact .pure (.default hscan hdefault)
  | none =>
      refine .bind (.failingAs hl _) fun l hname => ?_
      rw [liveText_dry hdry, hname]
      refine .pure (.placeholder ?_)
      unfold known
      rw [hscan]
      simp [hdefault]

theorem valueStep (hdry : r.dryRun = true) {value source : String → Lookup String}
    {locator : String → Lookup Locator} {name : String}
    (hv : ∀ name, r.Rehearses σ (r.Stands σ (Text.trim name)) (value name))
    (hs : ∀ name, r.Rehearses σ (fun _ => True) (source name))
    (hl : r.Rehearses σ (fun l => l.element = name) (locator name)) :
    r.Rehearses σ (r.Stands σ name) (r.valueStep value source locator name) := by
  intro s hstore
  rcases hstore.scan_eq_or name with hscan | ⟨rfl, hscan⟩
  · cases hfound : σ.scan name with
    | error e =>
        unfold Resolver.valueStep
        rw [Act.bind_run_ok (Act.get_run s), hscan, hfound]
        exact Rehearses.throw e s hstore
    | ok binding =>
        rw [hfound] at hscan
        cases binding with
        | some b =>
            rw [valueStep_of_bound hscan]
            exact evaluate hdry hv hs hfound s hstore
        | none =>
            rw [valueStep_of_unbound hscan]
            exact unboundValue hdry hl hfound s hstore
  · rw [valueStep_of_bound hscan]
    exact Rehearses.pure (.placeholder known_currentUrl) s hstore

theorem inContainer (hdry : r.dryRun = true) (locator : String → Lookup Locator) (word : String)
    (l : Locator) : r.Rehearses σ (fun _ => True) (r.inContainer locator word l) := by
  refine .bind (.word? _) fun container _ => ?_
  cases container with
  | none => exact .pure trivial
  | some c =>
      simp only [hdry, if_true]
      exact .bind (.locatorWord _ _) fun _ _ => .pure trivial

theorem locatorStep (hdry : r.dryRun = true) {value : String → Lookup String}
    (locator : String → Lookup Locator) (element : String)
    (hv : ∀ name, r.Rehearses σ (r.Stands σ (Text.trim name)) (value name)) :
    r.Rehearses σ (fun _ => True) (r.locatorStep value locator element) :=
  .bind (.locatorWord _ _) fun _ _ => .bind (.strategyOf _ _) fun _ _ =>
    .bind (.locatorWord _ _) fun _ _ => .bind (.expand hv _) fun _ _ => .inContainer hdry _ _ _

end Rehearses

/-! ### All levels -/

theorem rehearses_levels (hdry : r.dryRun = true) (room : Nat) :
    (∀ name, r.Rehearses σ (r.Stands σ name) (r.valueAt room name)) ∧
      ∀ element, r.Rehearses σ (fun l => l.element = element) (r.locatorAt room element) := by
  induction room using Nat.strongRecOn with
  | ind room ih =>
      cases room with
      | zero =>
          rw [valueAt_zero, locatorAt_zero]
          exact ⟨fun _ => .throw _, fun _ => .throw _⟩
      | succ room =>
          have hsource (name : String) : r.Rehearses σ (fun _ => True) (r.innerSource room name) :=
            (Rehearses.reference hdry ((ih (room - 1) (by omega)).1 _)).mono fun _ _ => trivial
          have hinner (name : String) :
              r.Rehearses σ (r.Stands σ (Text.trim name)) (r.inner room name) := by
            cases room with
            | zero => exact .throw _
            | succ room => exact .reference hdry ((ih room (by omega)).1 _)
          constructor
          · rw [valueAt_succ]
            exact fun name => .valueStep hdry hinner hsource ((ih room (by omega)).2 name)
          · intro element
            refine .of_run (P := fun _ => True) ?_ fun s l t hrun => element_of_locatorAt hrun
            rw [locatorAt_succ]
            exact .locatorStep hdry _ element hinner

/-- What one lookup, or none, makes of the world. -/
inductive LookedUp (r : Resolver Interactor) (s : State) : World → Prop where
  | nothing : LookedUp r s s.world
  | value (name : String) : LookedUp r s (r.value name s).2.world
  | reference (name : String) : LookedUp r s (r.referenceValue name s).2.world
  | template (template : String) : LookedUp r s (r.interpolate template s).2.world
  | locator (element : String) : LookedUp r s (r.locator element s).2.world

/-- In a dry run, a lookup has files read at paths that the bindings spell. -/
theorem asks_of_lookedUp (hdry : r.dryRun = true) {s : State} {w : World} (h : r.LookedUp s w) :
    ∃ paths, r.evaluators.FilesRead s.world paths w ∧ ∀ path ∈ paths, r.Asks s.store path := by
  have hs : Rehearsing s.store s.store := .inl rfl
  cases h with
  | nothing => exact ⟨[], .none, by simp⟩
  | value name => exact ((rehearses_levels hdry _).1 name s hs).asked
  | reference name => exact (Rehearses.reference hdry ((rehearses_levels hdry _).1 name) s hs).asked
  | template template =>
      have hwritten (name : String) : r.Rehearses s.store (r.Stands s.store (Text.trim name))
          (r.written (r.valueAt r.maxDepth) name) := .reference hdry ((rehearses_levels hdry _).1 _)
      exact (Rehearses.expand hwritten (Template.parse template) s hs).asked
  | locator element => exact ((rehearses_levels hdry _).2 element s hs).asked

end Resolver

namespace Session

variable {x : Session}

/-! ### Operations -/

theorem world_bind {ε α β : Type} {a : State.Act ε α} {f : α → State.Act ε β}
    (hf : ∀ x t, (f x t).2.world = t.world) (s : State) :
    ((a >>= f) s).2.world = (a s).2.world := by
  rw [Act.bind_run]
  rcases a s with ⟨e | x, t⟩
  · rfl
  · exact hf x t

theorem world_resolving {α β : Type} {a : Resolver.Lookup α} {f : α → Step β}
    (hf : ∀ x t, (f x t).2.world = t.world) (s : State) :
    ((resolving a >>= f) s).2.world = (a s).2.world := by
  rw [world_bind hf, resolving, Act.failingAs_snd]

/-- An operation of a dry run does to the world what one lookup does. -/
theorem lookedUp_perform (h : x.Dry) (op : Operation) (s : State) :
    x.resolver.LookedUp s (x.perform op s).2.world := by
  have still {a : Step Unit} (ha : (a s).2.world = s.world) :
      x.resolver.LookedUp s (quietly a s).2.world := by
    rw [quietly_run, ha]
    exact .nothing
  have rescoped (f : ScopeStack → Except ScopeFault ScopeStack) :
      x.resolver.LookedUp s (quietly (rebinding f) s).2.world := by
    refine still ?_
    rw [rebinding_run]
    cases f s.store <;> rfl
  have located (element : String) (deed : Locator → World.Act InteractionFault Unit) :
      x.resolver.LookedUp s (quietly (x.withLocated element () deed) s).2.world := by
    rw [quietly_run, h.withLocated_eq, world_resolving fun _ _ => rfl]
    exact .locator element
  cases hdeed : op.deed? with
  | some d =>
      rw [Operation.perform_of_deed? x hdeed, quietly_run, h.act_eq, world_resolving fun _ _ => rfl]
      exact .locator d.element
  | none =>
      cases op with
      | bind key value => exact still rfl
      | bindIn kind key value => exact rescoped _
      | beginFeature name => exact rescoped _
      | endFeature => exact rescoped _
      | resetPage => exact still rfl
      | locator element =>
          rw [perform, world_resolving fun _ _ => rfl]
          exact .locator element
      | value name =>
          rw [perform, saying, world_resolving fun _ _ => rfl]
          exact .value name
      | reference name =>
          rw [perform, saying, world_resolving fun _ _ => rfl]
          exact .reference name
      | interpolate template =>
          rw [perform, saying, world_resolving fun _ _ => rfl]
          exact .template template
      | selection name facet =>
          rw [perform, saying, world_resolving fun _ _ => rfl, Resolver.selection_dry h.lookups,
            world_bind fun _ _ => rfl]
          exact .locator name
      | bindAndWait element action value =>
          refine still ?_
          rw [h.bindAndWait_eq]
          rfl
      | moveTo element => exact located _ _
      | highlight element => exact located _ _
      | isInState element state =>
          rw [perform, world_bind fun _ _ => rfl, h.withLocated_eq, world_resolving fun _ _ => rfl]
          exact .locator element
      | awaitState element state => exact located _ _
      | awaitText element => exact located _ _
      | navigate url =>
          rw [perform, quietly_run, h.navigate_eq, world_resolving fun _ _ => rfl]
          exact .template url
      | runScript script =>
          rw [perform, world_bind fun _ _ => rfl, h.runScript_eq, world_resolving fun _ _ => rfl]
          exact .template script
      | _ => cases hdeed

/-! ### Runs -/

/-- A path comes from a file binding that stood there when one of the operations began: it is what
the template of the binding spells, and the text of the template if that was settled then. -/
def Spelled (x : Session) (ops : List Operation) (s : State) (path : String) : Prop :=
  ∃ before op later name template, ops = before ++ op :: later ∧
    (x.after (before.map .perform) s).store.scan name = .ok (some (.file template)) ∧
    Template.Spells (x.resolver.Stands (x.after (before.map .perform) s).store)
      (Template.parse template) path ∧
    ∀ text, Template.settled? (x.resolver.known (x.after (before.map .perform) s).store)
      (Template.parse template) = some text → path = text

theorem spelled_head {op : Operation} (ops : List Operation) {s : State} {path : String}
    (h : x.resolver.Asks s.store path) : x.Spelled (op :: ops) s path := by
  obtain ⟨name, template, hscan, hpath⟩ := h
  exact ⟨[], op, ops, name, template, rfl, hscan, hpath,
    fun text => Template.eq_of_settled? Resolver.eq_of_known hpath⟩

theorem Spelled.tail {op : Operation} {ops : List Operation} {s : State} {path : String}
    (h : x.Spelled ops (x.perform op s).2 path) : x.Spelled (op :: ops) s path := by
  obtain ⟨before, next, later, name, template, rfl, hscan, hpath, htext⟩ := h
  exact ⟨op :: before, next, later, name, template, rfl, hscan, hpath, htext⟩

theorem after_asks_spelled (h : x.Dry) (ops : List Operation) (s : State) :
    ∃ paths, x.resolver.evaluators.FilesRead s.world paths (x.after (ops.map .perform) s).world ∧
      ∀ path ∈ paths, x.Spelled ops s path := by
  induction ops generalizing s with
  | nil => exact ⟨[], .none, by simp⟩
  | cons op ops ih =>
      obtain ⟨paths, hop, hpaths⟩ := Resolver.asks_of_lookedUp h.lookups (lookedUp_perform h op s)
      obtain ⟨later, hops, hlater⟩ := ih (x.perform op s).2
      refine ⟨later ++ paths, hop.append hops, List.forall_mem_append.2 ⟨fun path hpath => ?_,
        fun path hpath => spelled_head ops (hpaths path hpath)⟩⟩
      exact (hlater path hpath).tail

/-- **A dry run asks for files only, and makes up no more of a path than its template leaves open.**
Whatever is bound, whoever answers queries and whatever operations are performed, evaluators are
asked for nothing but files.  Each path is what the template of a file binding spelled when the
operation began: a placeholder that the run made up is in it only where the template refers to a
name that has no text of its own.  A template that refers to bound texts and defaults only is asked
for as these fill it in. -/
theorem dry_run_asks_spelled_paths (settings : Settings) (hdry : settings.dryRun = true)
    (e : Evaluators) (defaults : String → Option String) (camera : Camera)
    (ops : List Operation) (s : State) :
    ∃ paths,
      e.FilesRead s.world paths
        ((ofSettings settings e defaults camera).after (ops.map .perform) s).world ∧
      ∀ path ∈ paths, (ofSettings settings e defaults camera).Spelled ops s path :=
  after_asks_spelled (dry_ofSettings hdry e defaults camera) ops s

/-- A motto in a file of a folder, and notes in a file that is called after a topic on the page. -/
def folderState : State :=
  begin ⟨[⟨.page, pageName, [("folder", "texts"), ("motto/file", "$[folder]/motto.txt"),
    ("topic/locator", "id"), ("topic/locator/id", "t"), ("notes/file", "$[topic].txt")]⟩], []⟩
    (World.fresh .bare [])

/-- The path of the motto is settled, and it is asked for. -/
theorem motto_asked_in_folder :
    { Settings.standard with dryRun := true }.dryRun = true ∧
      (echoDry.after [.perform (.value "motto")] folderState).world.asked =
        [.file "texts/motto.txt"] ∧
      ∃ paths, Evaluators.echo.FilesRead folderState.world paths
          (echoDry.after [.perform (.value "motto")] folderState).world ∧
        ∀ path ∈ paths, echoDry.Spelled [.value "motto"] folderState path :=
  ⟨rfl, by decide +kernel, dry_run_asks_spelled_paths { Settings.standard with dryRun := true } rfl
    Evaluators.echo (fun _ => none) .none [.value "motto"] folderState⟩

/-- The topic is to be read from the page, and the notes are asked for at its placeholder. -/
theorem notes_asked_at_placeholder :
    echoDry.settings.dryRun = true ∧ folderState.world.asked = [] ∧
      (echoDry.after [.perform (.value "notes")] folderState).world.asked =
        [.file (Template.placeholder "topic" ++ ".txt")] :=
  ⟨rfl, rfl, by decide +kernel⟩

end Session

end Bindery
