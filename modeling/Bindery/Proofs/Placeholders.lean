import Bindery.Proofs.Coherence
import Bindery.Proofs.Cutoff
import Bindery.Proofs.Drift

/-!
# Bindery — Proofs — Placeholders

Which of the values that only the page has a dry run binds placeholders for: for the address of the
page, wherever the live run reads it, and for what is selected in an element.  For the text of an
element a placeholder is given and not bound.

Where the live run reads the address is told from the bindings alone (`Inquiry.Leads`), and the dry
run is led there by the same bindings, but for those of containers, which it does not look into.
-/

namespace Bindery

theorem Key.selection_ne_currentUrl (element : String) (facet : Facet) :
    selection element facet ≠ currentUrl := action_ne_currentUrl element facet.keyPart

namespace Resolver

/-! ### Inquiries -/

/-- What a value is asked for. -/
inductive Inquiry where
  | value (name : String)
  | reference (name : String)
  | template (template : String)
  | selection (name : String) (facet : Facet)

namespace Inquiry

/-- The lookup that answers. -/
def run (r : Resolver Interactor) : Inquiry → Lookup String
  | value name => r.value name
  | reference name => r.referenceValue name
  | template t => r.interpolate t
  | selection name facet => r.selection name facet

/-- What is looked up in the bindings for it. -/
def quest : Inquiry → Quest
  | value name => .value name
  | reference name => .reference name
  | template t => .template (Template.parse t)
  | selection name _ => .locator name

/-- The key that the answer is bound to. -/
def key? : Inquiry → Option String
  | selection name facet => some (Key.selection name facet)
  | _ => none

/-- The bindings after an answer. -/
def answered (i : Inquiry) (v : String) (store : ScopeStack) : ScopeStack :=
  match i.key? with
  | some key => store.set key v
  | none => store

/-- The lookup leads to the address of the page. -/
def Leads (r : Resolver Interactor) (i : Inquiry) (s : State) : Prop :=
  i.quest.Leads r s.store.unaddressed s

variable {r : Resolver Interactor} {i : Inquiry} {s t : State} {v : String}

theorem gives_of_run (h : i.run r s = (.ok v, t)) :
    ∃ k x u, r.Gives k i.quest s x u ∧ t.store = i.answered v u.store := by
  cases i with
  | value name => exact ⟨_, v, t, gives_of_value h, rfl⟩
  | reference name => exact ⟨_, v, t, gives_of_referenceValue h, rfl⟩
  | template template => exact ⟨_, v, t, gives_of_interpolate h, rfl⟩
  | selection name facet =>
      obtain ⟨l, u, hlocated, h⟩ := Act.of_bind_ok h
      obtain ⟨x, hx⟩ := gives_of_locator hlocated
      refine ⟨_, x, u, hx, ?_⟩
      split at h
      · cases h
        rfl
      · obtain ⟨selected, u', hselected, h⟩ := Act.of_bind_ok h
        have hstore : u'.store = u.store := by
          rw [State.inWorld_run] at hselected
          rw [← (Prod.mk.inj hselected).2]
        cases selected with
        | none => cases h
        | some w =>
            cases h
            show u'.store.set _ _ = u.store.set _ _
            rw [hstore]

/-- A dry run binds the placeholder of the key. -/
theorem eq_placeholder_of_run (hdry : r.dryRun = true) (h : i.run r s = (.ok v, t)) {key : String}
    (hkey : i.key? = some key) : v = Template.placeholder key := by
  cases i with
  | selection name facet =>
      cases hkey
      rw [run, selection_dry hdry] at h
      obtain ⟨l, u, -, h⟩ := Act.of_bind_ok h
      cases h
      rfl
  | _ => cases hkey

theorem find?_answered_self {key : String} (hkey : i.key? = some key) (v : String)
    (store : ScopeStack) : (i.answered v store).current.entries.find? key = some v := by
  simp only [answered, hkey, ScopeStack.current_set]
  exact Entries.find?_put_self _ _ _

theorem find?_answered_other {key : String} (hkey : i.key? ≠ some key) (v : String)
    (store : ScopeStack) :
    (i.answered v store).current.entries.find? key = store.current.entries.find? key := by
  unfold answered
  cases hbound : i.key? with
  | none => rfl
  | some bound =>
      simp only [ScopeStack.current_set]
      exact Entries.find?_put_other (fun he => hkey (by rw [hbound, he])) _ _

theorem key?_ne_currentUrl (i : Inquiry) : i.key? ≠ some Key.currentUrl := by
  cases i with
  | selection name facet => exact fun h => Key.selection_ne_currentUrl _ _ (Option.some.inj h)
  | _ => exact fun h => by cases h

/-- The address of the page is bound in the end if the lookup leads to it, and as it was if not. -/
theorem address_of_run {named : String → Prop} (hc : r.Closed s.store.unaddressed named)
    (hnamed : i.quest.Named named) (h : i.run r s = (.ok v, t)) :
    (i.Leads r s → ∃ address, (r.dryRun = true → address = Template.placeholder Key.currentUrl) ∧
        t.store.current.entries.find? Key.currentUrl = some address) ∧
      (¬ i.Leads r s → t.store.current.entries.find? Key.currentUrl =
        s.store.current.entries.find? Key.currentUrl) := by
  obtain ⟨k, x, u, hgives, hstore⟩ := gives_of_run h
  obtain ⟨⟨more, hdrift⟩, -⟩ := drift_of_gives hc hgives (.refl s) hnamed
  rw [hstore, find?_answered_other i.key?_ne_currentUrl]
  refine ⟨fun hleads => hdrift.address (.inr hleads), fun hnot => ?_⟩
  refine (hdrift.unset fun h => hnot (h.resolve_left id)).find?_current_eq fun hmem => ?_
  obtain ⟨ρ, -, htext⟩ := List.mem_map.1 hmem
  exact Key.currentUrl_ne_text _ htext.symm

end Inquiry

/-! ### Where the dry run is led -/

section

variable {r : Resolver Interactor} {σ : ScopeStack} {named : String → Prop}

theorem locatorUses_of_rehearsal {element name : String}
    (h : r.rehearsal.LocatorUses σ element name) : r.LocatorUses σ element name := by
  cases h with
  | expression hword htemplate hname => exact .expression hword htemplate hname
  | container hlive => cases hlive

theorem uses_of_rehearsal {name next : String} (h : r.rehearsal.Uses σ name next) :
    r.Uses σ name next := by
  cases h with
  | template hscan ht hnext => exact .template hscan ht hnext
  | source hscan hs htext => exact .source hscan hs htext
  | locator hscan hdefault hnext => exact .locator hscan hdefault (locatorUses_of_rehearsal hnext)

theorem reaches_of_rehearsal {name : String} (h : r.rehearsal.Reaches σ name) : r.Reaches σ name :=
  Relation.ReflTransGen.mono (fun _ _ => uses_of_rehearsal) _ _ h

/-- The dry run is led to the address of the page only where the live run is. -/
theorem leads_of_rehearsal {q : Quest} {s : State} (h : q.Leads r.rehearsal σ s) :
    q.Leads r σ s := by
  cases q with
  | value name => exact ⟨h.1, h.2.imp fun _ h => ⟨uses_of_rehearsal h.1, reaches_of_rehearsal h.2⟩⟩
  | reference name => exact reaches_of_rehearsal h
  | template segments => exact h.imp fun _ h => ⟨h.1, reaches_of_rehearsal h.2⟩
  | locator element =>
      exact h.imp fun _ h => ⟨locatorUses_of_rehearsal h.1, reaches_of_rehearsal h.2⟩

/-- The elements among some names have no containers. -/
def Bare (σ : ScopeStack) (named : String → Prop) : Prop :=
  ∀ element word, named element → σ.findWord? (Key.locator element) = some word →
    σ.findWord? (Key.container element word) = none

theorem rehearsal_locatorUses (hbare : Bare σ named) {element name : String}
    (helement : named element) (h : r.LocatorUses σ element name) :
    r.rehearsal.LocatorUses σ element name := by
  cases h with
  | expression hword htemplate hname => exact .expression hword htemplate hname
  | container _ hword hcontainer =>
      rw [hbare element _ helement hword] at hcontainer
      cases hcontainer

theorem rehearsal_uses (hbare : Bare σ named) {name next : String} (hname : named name)
    (h : r.Uses σ name next) : r.rehearsal.Uses σ name next := by
  cases h with
  | template hscan ht hnext => exact .template hscan ht hnext
  | source hscan hs htext => exact .source hscan hs htext
  | locator hscan hdefault hnext =>
      exact .locator hscan hdefault (rehearsal_locatorUses hbare hname hnext)

theorem Closed.locatorUses (hc : r.Closed σ named) {element name : String}
    (helement : named element) (h : r.LocatorUses σ element name) : named name := by
  induction h with
  | expression hword htemplate hname => exact hc.expressions helement hword htemplate _ hname
  | container _ hword hcontainer _ ih => exact ih (hc.containers helement hword hcontainer)

theorem Closed.uses (hc : r.Closed σ named) {name next : String} (hname : named name)
    (h : r.Uses σ name next) : named next := by
  cases h with
  | template hscan ht hnext => exact hc.templates hname hscan _ ht _ hnext
  | source hscan hs htext =>
      obtain ⟨text, ht, htrim⟩ := hc.sources hname hscan hs
      rw [htext] at ht
      cases ht
      exact htrim
  | locator _ _ hnext => exact hc.locatorUses hname hnext

theorem rehearsal_reaches (hc : r.Closed σ named) (hbare : Bare σ named) {name : String}
    (hname : named name) (h : r.Reaches σ name) : r.rehearsal.Reaches σ name := by
  unfold Reaches at h
  induction h using Relation.ReflTransGen.head_induction_on with
  | refl => exact .refl
  | head huses _ ih => exact .head (rehearsal_uses hbare hname huses) (ih (hc.uses hname huses))

/-- Where there are no containers, the dry run is led where the live run is. -/
theorem rehearsal_leads (hc : r.Closed σ named) (hbare : Bare σ named) {q : Quest}
    (hq : q.Named named) {s : State} (h : q.Leads r σ s) : q.Leads r.rehearsal σ s := by
  cases q with
  | value name =>
      obtain ⟨hscan, next, huses, hreaches⟩ := h
      exact ⟨hscan, next, rehearsal_uses hbare hq huses,
        rehearsal_reaches hc hbare (hc.uses hq huses) hreaches⟩
  | reference name => exact rehearsal_reaches hc hbare hq h
  | template segments =>
      obtain ⟨name, hname, hreaches⟩ := h
      exact ⟨name, hname, rehearsal_reaches hc hbare (hq name hname) hreaches⟩
  | locator element =>
      obtain ⟨name, huses, hreaches⟩ := h
      exact ⟨name, rehearsal_locatorUses hbare hq huses,
        rehearsal_reaches hc hbare (hc.locatorUses hq huses) hreaches⟩

theorem Closed.rehearsal (hc : r.Closed σ named) : r.rehearsal.Closed σ named :=
  ⟨hc.templates, hc.sources, hc.expressions, hc.containers, hc.apart⟩

end

/-! ### What the dry run binds -/

theorem readings_of_gives_dry {r : Resolver Interactor} (hdry : r.dryRun = true) {k : Nat}
    {q : Quest} {s t : State} {v : String} (h : r.Gives k q s v t) :
    t.readings = s.readings := by
  induction h with
  | heard hlive => rw [hdry] at hlive; cases hlive
  | _ => simp_all

/-- **A dry run binds a placeholder for what is selected and for the address of the page, and for
no text.**  Let an inquiry be answered in the live run and in the dry run, from the same bindings,
where names are closed under what is looked up for them.  If the elements have no containers and
the live run is led to the address of the page, it binds the address and the dry run binds its
placeholder; if it is not, both leave the binding as it is.  Where the live run binds what is
selected the dry run binds a placeholder, and it binds nothing else: no text of an element. -/
theorem dry_run_binds_address_and_selection {r : Resolver Interactor} {named : String → Prop}
    {i : Inquiry} {s t d : State} {v w : String} (hc : r.Closed s.store.unaddressed named)
    (hnamed : i.quest.Named named) (hlive : i.run r s = (.ok v, t))
    (hdry : i.run r.rehearsal s = (.ok w, d)) :
    (Bare s.store.unaddressed named → i.Leads r s →
        (∃ address, t.store.current.entries.find? Key.currentUrl = some address) ∧
          d.store.current.entries.find? Key.currentUrl =
            some (Template.placeholder Key.currentUrl)) ∧
      (¬ i.Leads r s →
        t.store.current.entries.find? Key.currentUrl =
            s.store.current.entries.find? Key.currentUrl ∧
          d.store.current.entries.find? Key.currentUrl =
            s.store.current.entries.find? Key.currentUrl) ∧
      (∀ key, i.key? = some key →
        t.store.current.entries.find? key = some v ∧
          d.store.current.entries.find? key = some (Template.placeholder key)) ∧
      ∀ key, key ≠ Key.currentUrl → i.key? ≠ some key →
        d.store.current.entries.find? key = s.store.current.entries.find? key := by
  obtain ⟨hbound, hleft⟩ := Inquiry.address_of_run hc hnamed hlive
  obtain ⟨hbound', hleft'⟩ := Inquiry.address_of_run hc.rehearsal hnamed hdry
  obtain ⟨_, _, t', -, htstore⟩ := Inquiry.gives_of_run hlive
  obtain ⟨_, _, d', hgives, hdstore⟩ := Inquiry.gives_of_run hdry
  refine ⟨fun hbare hleads => ⟨?_, ?_⟩, fun hnot => ⟨hleft hnot, hleft' ?_⟩,
    fun key hkey => ⟨?_, ?_⟩, fun key hurl hkey => ?_⟩
  · obtain ⟨address, -, hfind⟩ := hbound hleads
    exact ⟨address, hfind⟩
  · obtain ⟨address, hplaceholder, hfind⟩ := hbound' (rehearsal_leads hc hbare hnamed hleads)
    rw [hfind, hplaceholder rfl]
  · exact fun hleads => hnot (leads_of_rehearsal hleads)
  · rw [htstore]
    exact Inquiry.find?_answered_self hkey v _
  · rw [hdstore, ← Inquiry.eq_placeholder_of_run rfl hdry hkey]
    exact Inquiry.find?_answered_self hkey w _
  · obtain ⟨⟨more, hdrift⟩, -⟩ := drift_of_gives hc.rehearsal hgives (.refl s) hnamed
    have hnothing : more = [] := by
      have hreadings := hdrift.readings
      rw [readings_of_gives_dry rfl hgives] at hreadings
      exact List.self_eq_append_left.1 hreadings
    rw [hdstore, Inquiry.find?_answered_other hkey]
    refine hdrift.framed.find?_current_eq fun hmem => hurl ?_
    rw [hnothing] at hmem
    exact List.mem_singleton.1 hmem

/-- A greeting with the address of the page in it, and a note that stands on the page. -/
def visitState : State :=
  Session.begin ⟨[⟨.page, Session.pageName, [("greeting/javascript", "'$[the current URL]'"),
    ("note/locator", "id"), ("note/locator/id", "n")]⟩], []⟩ Session.noteWorld

/-- The names that the greeting is made of. -/
def greetingNames (name : String) : Prop := name = "greeting" ∨ name = Key.currentUrl

theorem scan_greeting : visitState.store.unaddressed.scan "greeting" =
    .ok (some (.script "'$[the current URL]'")) := by decide +kernel

theorem not_located_of_greetingNames {element word : String} (h : greetingNames element) :
    visitState.store.unaddressed.findWord? (Key.locator element) ≠ some word := by
  have hnone : visitState.store.unaddressed.findWord? (Key.locator element) = none := by
    rcases h with rfl | rfl <;> decide +kernel
  simp [hnone]

theorem closed_greeting : twoDeep.Closed visitState.store.unaddressed greetingNames := by
  have hbound {name : String} {b : BoundAttribute} (h : greetingNames name)
      (hscan : visitState.store.unaddressed.scan name = .ok (some b)) :
      b = .script "'$[the current URL]'" := by
    rcases h with rfl | rfl
    · rw [scan_greeting] at hscan
      cases hscan
      rfl
    · have hurl : visitState.store.unaddressed.scan Key.currentUrl = .ok none := by decide +kernel
      rw [hurl] at hscan
      cases hscan
  have hnames : Template.names (Template.parse "'$[the current URL]'") = [Key.currentUrl] := by
    decide +kernel
  constructor
  case templates =>
    intro name b hname hscan template ht next hnext
    obtain rfl := hbound hname hscan
    rw [List.mem_singleton.1 ht, hnames] at hnext
    exact .inr (List.mem_singleton.1 hnext)
  case sources =>
    intro name b template hname hscan hsource
    obtain rfl := hbound hname hscan
    cases hsource
  case expressions => exact fun he hword => absurd hword (not_located_of_greetingNames he)
  case containers => exact fun he hword => absurd hword (not_located_of_greetingNames he)
  case apart =>
    rintro element name (rfl | rfl) (rfl | rfl) <;> decide +kernel

/-- The greeting leads to the address of the page: the live run binds it, and the dry run binds its
placeholder. -/
theorem greeting_binds_address :
    twoDeep.Closed visitState.store.unaddressed greetingNames ∧
      Bare visitState.store.unaddressed greetingNames ∧
      (Inquiry.value "greeting").Leads twoDeep visitState ∧
      ((Inquiry.value "greeting").run twoDeep visitState).1.toOption.isSome ∧
      ((Inquiry.value "greeting").run twoDeep.rehearsal visitState).1.toOption.isSome ∧
      (∃ address, ((Inquiry.value "greeting").run twoDeep visitState).2.store.current.entries.find?
        Key.currentUrl = some address) ∧
      ((Inquiry.value "greeting").run twoDeep.rehearsal visitState).2.store.current.entries.find?
        Key.currentUrl = some (Template.placeholder Key.currentUrl) := by
  have hok {out : Except ResolutionFault String × State} (h : out.1.toOption.isSome) :
      ∃ v, out = (.ok v, out.2) := by
    rcases out with ⟨_ | v, t⟩
    · cases h
    · exact ⟨v, rfl⟩
  have hbare : Bare visitState.store.unaddressed greetingNames :=
    fun _ _ he hword => absurd hword (not_located_of_greetingNames he)
  have hleads : (Inquiry.value "greeting").Leads twoDeep visitState :=
    ⟨by decide +kernel, Key.currentUrl,
      .template scan_greeting (List.mem_singleton.2 rfl) (by decide +kernel), .refl⟩
  have hlive : ((Inquiry.value "greeting").run twoDeep visitState).1.toOption.isSome := by
    decide +kernel
  have hdry : ((Inquiry.value "greeting").run twoDeep.rehearsal visitState).1.toOption.isSome := by
    decide +kernel
  obtain ⟨v, hv⟩ := hok hlive
  obtain ⟨w, hw⟩ := hok hdry
  exact ⟨closed_greeting, hbare, hleads, hlive, hdry,
    (dry_run_binds_address_and_selection closed_greeting (i := .value "greeting") (.inl rfl) hv
      hw).1 hbare hleads⟩

/-- The text of the note is bound in the live run.  The dry run gives its placeholder, and leaves
the text of the note without a binding. -/
theorem note_text_bound_live_only :
    (twoDeep.value "note" visitState).1.toOption = some "draft" ∧
      (twoDeep.value "note" visitState).2.store.find? (Key.text "note") = some "draft" ∧
      (twoDeep.rehearsal.value "note" visitState).1.toOption = some (Template.placeholder "note") ∧
      (twoDeep.rehearsal.value "note" visitState).2.store.find? (Key.text "note") = none := by
  decide +kernel

end Resolver

end Bindery
