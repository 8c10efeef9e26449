import Bindery.Proofs.LiveText
import Bindery.Proofs.Operations
import Bindery.Proofs.Steps
import Bindery.Proofs.Turns
import Mathlib.Data.List.Induction

/-!
# Bindery — Proofs — Coherence

A text that was read from the page is given only until something may have changed it.  Every
operation that does not bind the text of an element itself keeps the state coherent for that element
(`within_coherent_perform`), and one that outdates what was read leaves no text of it at all
(`clear_of_outdates`).  Over a run the log of readings is cut at the last turn that did so, and the
value of the element is a text from after the cut (`value_read_since`).
-/

namespace Bindery

/-! ### Texts that are outdated -/

namespace Resolver

variable {ι : Type} [PageReader ι] {r : Resolver ι} {E : String} {start : List LiveReading}
  {s : State}

/-- No text stands under a new page scope, if none stands in the scopes below. -/
theorem clear_push_page {store : ScopeStack} {name : String}
    (h : ∀ scope ∈ store.scopes, ∀ v, (Key.text E, v) ∈ scope.entries → v = "") :
    Clear E { s with store := store.push .page name } :=
  ⟨ScopeStack.paged_push_page h, fun _ hv => nomatch hv⟩

theorem Coherent.beginFeature (h : r.Coherent E start s) (name : String) :
    Clear E { s with store := Session.beginFeature name s.store } := by
  obtain ⟨popped, t, hpop⟩ := h.paged.pop_page
  unfold Session.beginFeature
  rw [hpop]
  refine clear_push_page fun scope hscope v hv => ?_
  rcases List.mem_cons.1 hscope with rfl | hscope
  · cases hv
  · exact h.paged.outer scope (ScopeStack.scopes_of_pop h.paged hpop scope hscope) v hv

theorem Coherent.endFeature (h : r.Coherent E start s) {store : ScopeStack}
    (hend : Session.endFeature s.store = .ok store) : Clear E { s with store } := by
  unfold Session.endFeature at hend
  cases hpop : s.store.pop .feature with
  | error e => rw [hpop] at hend; cases hend
  | ok p =>
      obtain ⟨popped, t⟩ := p
      rw [hpop] at hend
      cases hend
      exact clear_push_page fun scope hscope v hv =>
        h.paged.outer scope (ScopeStack.scopes_of_pop h.paged hpop scope hscope) v hv

theorem Clear.emptyPage (h : Clear E s) :
    Clear E { s with store := Session.emptyPage s.store } := by
  obtain ⟨rest, hpushed, htail⟩ := h.paged.pushed
  have hempty : Session.emptyPage s.store =
      { s.store with pushed := s.store.current.clear :: rest } := by
    unfold Session.emptyPage ScopeStack.reset ScopeStack.changeIn
    rw [hpushed, ScopeStack.changeFirst, if_pos h.paged.page]
  rw [hempty]
  refine ⟨⟨h.paged.page, List.nodup_nil, fun scope hscope => ?_⟩,
    fun _ hv => absurd hv List.not_mem_nil⟩
  exact h.paged.outer scope (by rw [htail]; exact hscope)

theorem Coherent.invalidateText (h : r.Coherent E start s) (element : String) :
    Clear E (Session.invalidateText element s) := by
  have hclear := h.clear_forgetLiveText
  unfold Session.invalidateText
  simp only
  split
  · exact hclear
  · exact hclear
  · exact hclear.set fun _ => rfl

theorem invalidateText_readings (element : String) (s : State) :
    (Session.invalidateText element s).readings = s.readings := by
  unfold Session.invalidateText
  simp only
  split <;> rfl

end Resolver

/-! ### Operations -/

/-- Whether an operation binds a key that its caller chose. -/
def Operation.Binds (key : String) : Operation → Prop
  | .bind k _ => k = key
  | .bindIn _ k _ => k = key
  | .bindAndWait element action _ => Key.action element action = key
  | _ => False

/-- An operation sets no text on its own account but the one that its caller chose. -/
theorem Operation.keys_ne_text {op : Operation} {name : String}
    (hop : ¬ op.Binds (Key.text name)) : ∀ key ∈ op.keys, key ≠ Key.text name := by
  cases hdeed : op.deed? with
  | some d =>
      rw [keys_of_deed? hdeed, List.forall_mem_singleton]
      exact key_ne_text hdeed name
  | none =>
      cases op with
      | bind key value => exact List.forall_mem_singleton.2 hop
      | bindAndWait element action value => exact List.forall_mem_singleton.2 hop
      | selection element facet =>
          exact List.forall_mem_singleton.2 (Key.selection_ne_text element facet name)
      | _ => first | exact fun _ h => absurd h List.not_mem_nil | cases hdeed

/-- Whether an operation that ended so outdates what was read: the page may have been changed by an
action that succeeded on it, though the time after the action may not have passed as it should, or
the page scope is another one. -/
def Operation.Outdates : Operation → Except StepFault Answer → Prop
  | .sendKeys .., r | .clearText _, r | .click _, r | .submit _, r | .check _, r | .uncheck _, r
  | .select .., r => (∃ a, r = .ok a) ∨ ∃ f, r = .error (.gate f)
  | .beginFeature _, r | .endFeature, r | .resetPage, r | .navigate _, r => ∃ a, r = .ok a
  | _, _ => False

theorem Operation.done_of_outdates {op : Operation} {d : Deed} (h : op.deed? = some d)
    {r : Except StepFault Answer} (hout : op.Outdates r) :
    (∃ a, r = .ok a) ∨ ∃ f, r = .error (.gate f) := by
  cases op <;> cases h <;> exact hout

namespace Session

open Resolver (Coherent Clear)

variable {x : Session} {E : String} {start : List LiveReading} {s : State}

/-- The bounds of what keeps a session coherent. -/
def coherent (x : Session) (E : String) (start : List LiveReading) : Bounds State :=
  .keeping (x.resolver.Coherent E start)

theorem within_clear_inWorld {ε α : Type} (a : World.Act ε α) :
    Act.Within (.keeping (Clear E)) (State.inWorld a) :=
  State.within_keeping_inWorld (fun _ w h => h.of_world w) a

theorem admits_coherent (x : Session) (E : String) (start : List LiveReading) :
    x.Admits (fun key => key ≠ Key.text E) (fun _ => True) (x.coherent E start) where
  lookups := Resolver.permits_coherent x.resolver E start
  world _ w h := h.of_world w
  set _ _ value hkey h := h.set hkey value
  outdate s element _ h := by
    refine .of_clear_since (h.invalidateText element) ?_
    rw [Resolver.invalidateText_readings]
    exact h.grown

theorem within_coherent_resetPage : Act.Within (x.coherent E start) resetPage :=
  .modify fun _ h => .of_clear_since h.clear_forgetLiveText.emptyPage h.grown

/-- An operation that does not bind the text of an element keeps a session coherent for it. -/
theorem within_coherent_perform {op : Operation} (hop : ¬ op.Binds (Key.text E)) :
    Act.Within (x.coherent E start) (x.perform op) := by
  have admits := admits_coherent x E start
  by_cases hscopes : op.Rescopes
  · cases op with
    | bindIn kind key value =>
        refine within_quietly (within_rebinding fun s store hset h => ?_)
        obtain ⟨hpaged, hold⟩ := h.paged.setIn hop hset
        exact ⟨hpaged, h.since.imp fun _ e => ⟨e.1, fun v hv => e.2 v (hold v hv)⟩⟩
    | beginFeature name =>
        refine within_quietly (within_rebinding fun s store hset h => ?_)
        cases hset
        exact .of_clear_since (h.beginFeature name) h.grown
    | endFeature =>
        exact within_quietly (within_rebinding fun s store hend h =>
          .of_clear_since (h.endFeature hend) h.grown)
    | resetPage => exact within_quietly within_coherent_resetPage
    | navigate url => exact admits.within_navigate within_coherent_resetPage url
    | _ => cases hscopes
  · exact admits.within_perform hscopes (Operation.keys_ne_text hop) fun _ _ => trivial

/-! ### Operations that outdate what was read -/

/-- After an interaction that succeeded no text of an element is left. -/
theorem clear_act {element action value : String}
    {deed : ElementId → World.Act InteractionFault Unit} (hlive : x.settings.dryRun = false)
    (hkey : Key.action element action ≠ Key.text E) (h : x.resolver.Coherent E start s)
    (hdone : (∃ u, (x.act element action value deed s).1 = .ok u) ∨
      ∃ f, (x.act element action value deed s).1 = .error (.gate f)) :
    Clear E (x.act element action value deed s).2 := by
  have hwait : Act.Within (.keeping (Clear E)) (x.bindAndWait element action value) :=
    within_bindAndWait (fun _ h => h.set fun hk => absurd hk hkey)
      (fun _ => within_clear_inWorld _) fun _ _ => within_clear_inWorld _
  rcases hl : x.resolver.locator element s with ⟨e | l, t⟩
  · rw [act_of_locator_error hl] at hdone
    rcases hdone with ⟨u, hu⟩ | ⟨f, hf⟩
    · cases hu
    · cases hf
  · have ht := ((Resolver.permits_coherent x.resolver E start).within_locator element).keeps h hl
    rcases hd : x.resolver.interactor.withElement (some action) l deed t.world with ⟨f | ⟨⟩, w⟩
    · rw [act_of_deed_error hlive hl hd] at hdone
      rcases hdone with ⟨u, hu⟩ | ⟨f, hf⟩
      · cases hu
      · cases hf
    · rw [act_of_deed_ok hlive hl hd]
      exact Act.Within.ofRelation_iff.1 hwait _ ((ht.of_world w).invalidateText element)

/-- After another address was gone to no text of an element is left. -/
theorem clear_navigate {url : String} (h : x.resolver.Coherent E start s) {u : Unit} {t : State}
    (hdone : x.navigate url s = (.ok u, t)) : Clear E t := by
  have hlookup := (Resolver.permits_coherent x.resolver E start).within_interpolate url
  cases x.navigates url s with
  | lost hu hrun => cases hrun.symm.trans hdone
  | refused hlive hu hgo hrun => cases hrun.symm.trans hdone
  | dry hdry hu hrun =>
      cases hrun.symm.trans hdone
      exact (hlookup.keeps h hu).clear_forgetLiveText.emptyPage
  | gone hlive hu hgo hrun =>
      cases hrun.symm.trans hdone
      exact ((hlookup.keeps h hu).of_world _).clear_forgetLiveText.emptyPage

/-- After an operation that outdates what was read no text of an element is left. -/
theorem clear_of_outdates {op : Operation} (hlive : x.settings.dryRun = false)
    (h : x.resolver.Coherent E start s) (hout : op.Outdates (x.perform op s).1) :
    Clear E (x.perform op s).2 := by
  cases hdeed : op.deed? with
  | some d =>
      have hdone := Operation.done_of_outdates hdeed hout
      rw [Operation.perform_of_deed? x hdeed, quietly_run] at hdone ⊢
      refine clear_act hlive (Operation.key_ne_text hdeed E) h ?_
      simp only at hdone
      generalize (x.act d.element d.action d.value d.act s).1 = r at hdone
      rcases r with e | u
      · rcases hdone with ⟨a, ha⟩ | ⟨f, hf⟩
        · cases ha
        · exact .inr ⟨f, by cases hf; rfl⟩
      · exact .inl ⟨u, rfl⟩
  | none =>
      cases op with
      | beginFeature name => exact h.beginFeature name
      | endFeature =>
          obtain ⟨a, ha⟩ := hout
          have hrun : x.perform .endFeature s = quietly (rebinding endFeature) s := rfl
          rw [hrun, quietly_run, rebinding_run] at ha ⊢
          cases hend : endFeature s.store with
          | error e => rw [hend] at ha; cases ha
          | ok store => exact h.endFeature hend
      | resetPage => exact h.clear_forgetLiveText.emptyPage
      | navigate url =>
          obtain ⟨a, ha⟩ := hout
          have hrun : x.perform (.navigate url) s = quietly (x.navigate url) s := rfl
          rw [hrun, quietly_run] at ha ⊢
          rcases hnav : x.navigate url s with ⟨e | u, t⟩
          · rw [hnav] at ha; cases ha
          · exact clear_navigate h hnav
      | _ => first | exact False.elim hout | cases hdeed

end Session

/-! ### Values -/

/-- The first entry of a name whose only entries are texts is its text. -/
theorem ScopeStack.text_of_scan {s : ScopeStack} {name : String} {b : BoundAttribute}
    (hkinds : ∀ p ∈ s.entries, p.2 ≠ "" → ∀ kind, AttributeKind.ofKey? name p.1 = some kind →
      kind = .text)
    (h : s.scan name = .ok (some b)) :
    ∃ v, b = .literal v ∧ v ≠ "" ∧ (Key.text name, v) ∈ s.entries := by
  unfold scan at h
  cases hfirst : s.firstOf? name with
  | none => rw [hfirst] at h; cases h
  | some found =>
      obtain ⟨kind, v⟩ := found
      obtain ⟨key, hmem, hne, hkey⟩ := mem_entries_of_firstOf? hfirst
      obtain rfl := hkinds _ hmem hne kind hkey
      obtain rfl := AttributeKind.eq_text_of_ofKey? hkey
      rw [hfirst] at h
      cases h
      exact ⟨v, rfl, hne, hmem⟩

/-- The value of an element of which only texts are bound is a text that was read. -/
theorem Resolver.heard_of_value {ι : Type} [PageReader ι] {r : Resolver ι} {E v : String}
    {start : List LiveReading}
    {s t : State} (hlive : r.dryRun = false) (hdefault : r.defaults E = none)
    (hkinds : ∀ p ∈ s.store.entries, p.2 ≠ "" → ∀ kind, AttributeKind.ofKey? E p.1 = some kind →
      kind = .text)
    (h : r.Coherent E start s) (hv : r.value E s = (.ok v, t)) :
    ∃ new, t.readings = new ++ start ∧ r.Heard E v new := by
  rw [value, valueAt_succ, valueStep, Act.bind_run_ok (Act.get_run s)] at hv
  obtain ⟨binding, s₁, hscan, hv⟩ := Act.of_bind_ok hv
  obtain ⟨hfound, rfl⟩ : s.store.scan E = .ok binding ∧ s = s₁ := Prod.mk.inj hscan
  cases binding with
  | some b =>
      -- a text that is still bound, and so was read since
      obtain ⟨text, rfl, hne, hmem⟩ := ScopeStack.text_of_scan hkinds hfound
      cases hv
      obtain ⟨new, e, hnew⟩ := h.since
      exact ⟨new, e, (hnew _ (ScopeStack.mem_current_of_mem_entries h.paged hmem hne) hne).1⟩
  | none =>
      -- a text that is read now; what is read on the way to its locator comes before it
      simp only [unboundValue, hdefault] at hv
      obtain ⟨l, s₁, hl, hv⟩ := Act.of_bind_ok hv
      have hl := Act.of_failingAs_ok hl
      have h₁ := (((permits_coherent r E start).within_levels _).2 E).keeps h hl
      rw [liveText_run, if_neg (by simp [hlive])] at hv
      rcases hw : PageReader.text r.interactor l s₁.world with ⟨f | text, w⟩
      · rw [hw] at hv; cases hv
      · rw [hw] at hv
        cases hv
        obtain ⟨new, e⟩ := h₁.grown
        refine ⟨⟨l, s₁.store, s₁.world, v⟩ :: new, by simp [State.hearing, e], _,
          List.mem_cons_self, element_of_locatorAt hl, rfl, genuine_of_located hl hw⟩

/-! ### Runs -/

namespace Session

open Resolver (Coherent Clear)

variable {x : Session} {E : String} {start : List LiveReading} {s : State}

/-- Whether a turn binds a key that its caller chose. -/
def Turn.Binds (key : String) : Turn → Prop
  | .perform op => op.Binds key
  | .outside _ => False

/-- Whether a turn in a state outdates what was read before. -/
def Turn.Outdates (x : Session) (s : State) : Turn → Prop
  | .perform op => op.Outdates (x.perform op s).1
  | .outside _ => False

/-- A session that acts on the page, and is no dry run. -/
def Live (x : Session) : Prop := x.settings.dryRun = false ∧ x.resolver.dryRun = false

theorem live_ofSettings {settings : Settings} (h : settings.dryRun = false)
    (evaluators : Evaluators) (defaults : String → Option String) (camera : Camera) :
    (ofSettings settings evaluators defaults camera).Live := ⟨h, h⟩

theorem coherent_take {turn : Turn} (hturn : ¬ turn.Binds (Key.text E))
    (h : x.resolver.Coherent E start s) : x.resolver.Coherent E start (x.take s turn) := by
  cases turn with
  | perform op => exact Act.Within.ofRelation_iff.1 (within_coherent_perform hturn) s h
  | outside change => exact h.of_world _

theorem clear_take (hlive : x.Live) {turn : Turn} (h : x.resolver.Coherent E start s)
    (hout : turn.Outdates x s) : Clear E (x.take s turn) := by
  cases turn with
  | perform op => exact clear_of_outdates hlive.1 h hout
  | outside change => cases hout

/-- What came after `start` came after every turn of a run that outdated what was read. -/
def Since (x : Session) (s : State) (turns : List Turn) (start : List LiveReading) : Prop :=
  ∀ before turn later, turns = before ++ turn :: later → turn.Outdates x (x.after before s) →
    ∃ new, start = new ++ (x.after (before ++ [turn]) s).readings

/-- A place in a list with one more at the end is that end or a place in the list. -/
theorem split_snoc {α : Type} {l before later : List α} {a b : α}
    (h : l ++ [a] = before ++ b :: later) :
    (later = [] ∧ before = l ∧ b = a) ∨ ∃ init, later = init ++ [a] ∧ l = before ++ b :: init := by
  rcases List.eq_nil_or_concat later with rfl | ⟨init, c, rfl⟩
  · obtain ⟨rfl, hb⟩ := List.append_inj' h rfl
    exact .inl ⟨rfl, rfl, (List.cons.inj hb).1.symm⟩
  · have hends : l ++ [a] = (before ++ b :: init) ++ [c] := by simpa using h
    obtain ⟨hinit, hc⟩ := List.append_inj' hends rfl
    exact .inr ⟨init, by rw [(List.cons.inj hc).1, List.concat_eq_append], hinit⟩

/-- The log can be cut at the last turn that outdated what was read, and is coherent from there. -/
theorem exists_since (hlive : x.Live) (turns : List Turn)
    (hturns : ∀ turn ∈ turns, ¬ turn.Binds (Key.text E)) (h : Clear E s) :
    ∃ start, x.resolver.Coherent E start (x.after turns s) ∧ x.Since s turns start := by
  -- from the end, as a turn is judged in the state that the turns before it lead to
  induction turns using List.reverseRecOn with
  | nil =>
      refine ⟨s.readings, .of_clear h, fun before turn later hsplit => ?_⟩
      simp at hsplit
  | append_singleton turns last ih =>
      obtain ⟨start, hcoh, hsince⟩ := ih fun turn ht => hturns turn (List.mem_append_left _ ht)
      have hafter : x.after (turns ++ [last]) s = x.take (x.after turns s) last := by
        rw [after_append, after_cons, after_nil]
      have hnext := coherent_take (hturns last (by simp)) hcoh
      by_cases hout : last.Outdates x (x.after turns s)
      · -- the log is cut anew, here
        refine ⟨(x.after (turns ++ [last]) s).readings, ?_, fun before turn later hsplit hturn =>
          ?_⟩
        · rw [hafter]
          exact .of_clear (clear_take hlive hcoh hout)
        · rcases split_snoc hsplit with ⟨rfl, rfl, rfl⟩ | ⟨init, -, hinit⟩
          · exact ⟨[], rfl⟩
          · obtain ⟨new, rfl⟩ := hsince before turn init hinit hturn
            obtain ⟨more, hmore⟩ := hnext.grown
            exact ⟨more ++ new, by rw [hafter, hmore, List.append_assoc]⟩
      · refine ⟨start, by rw [hafter]; exact hnext, fun before turn later hsplit hturn => ?_⟩
        rcases split_snoc hsplit with ⟨rfl, rfl, rfl⟩ | ⟨init, -, hinit⟩
        · exact absurd hturn hout
        · exact hsince before turn init hinit hturn

/-- A session with no bindings of its own begins with no text of any element. -/
theorem clear_begin (E : String) (w : World) : Clear E (begin .empty w) := by
  have h : ∀ scope ∈ ScopeStack.empty.scopes, ∀ v, (Key.text E, v) ∈ scope.entries → v = "" := by
    intro scope hscope v hv
    rcases List.mem_singleton.1 hscope with rfl
    cases hv
  exact ⟨ScopeStack.paged_push_page h, fun _ hv => nomatch hv⟩

/-- **Live texts are coherent.**  Take a session with no bindings of its own at first, and any run
of it whose turns do not bind the text of an element themselves.  If that element has no default and
no binding of another kind at the end, its value is a text that was read from the page where its
locator found it, and the reading is younger than every turn that outdated what was read before. -/
theorem value_read_since (x : Session) (hlive : x.Live) (w : World) (turns : List Turn)
    (E v : String) (hturns : ∀ turn ∈ turns, ¬ turn.Binds (Key.text E))
    (hdefault : x.resolver.defaults E = none)
    (hkinds : ∀ p ∈ (x.after turns (begin .empty w)).store.entries, p.2 ≠ "" →
      ∀ kind, AttributeKind.ofKey? E p.1 = some kind → kind = .text)
    (hv : (x.perform (.value E) (x.after turns (begin .empty w))).1 = .ok (.text v)) :
    ∃ ρ : LiveReading, ρ.locator.element = E ∧ ρ.text = v ∧ ρ.Genuine x.resolver ∧
      ρ ∈ (x.perform (.value E) (x.after turns (begin .empty w))).2.readings ∧
      ∀ before turn later, turns = before ++ turn :: later →
        turn.Outdates x (x.after before (begin .empty w)) →
        ∃ new, (x.perform (.value E) (x.after turns (begin .empty w))).2.readings =
            new ++ (x.after (before ++ [turn]) (begin .empty w)).readings ∧ ρ ∈ new := by
  obtain ⟨start, hcoh, hsince⟩ := exists_since hlive turns hturns (clear_begin E w)
  rcases hrun : x.perform (.value E) (x.after turns (begin .empty w)) with ⟨r, t⟩
  rw [hrun] at hv
  obtain rfl : r = .ok (.text v) := hv
  obtain ⟨v', t', hvalue, hanswer⟩ := Act.of_bind_ok hrun
  cases hanswer
  obtain ⟨new, hnew, ρ, hρ, helement, htext, hgenuine⟩ :=
    Resolver.heard_of_value hlive.2 hdefault hkinds hcoh (Act.of_failingAs_ok hvalue)
  refine ⟨ρ, helement, htext, hgenuine, ?_, fun before turn later hsplit hturn => ?_⟩
  · simp only [hnew]
    exact List.mem_append_left _ hρ
  · obtain ⟨more, rfl⟩ := hsince before turn later hsplit hturn
    exact ⟨new ++ more, by simp only [hnew, List.append_assoc], List.mem_append_left _ hρ⟩

/-- A page with a note on it. -/
def noteWorld : World :=
  let world := World.fresh .bare []
  { world with browser := { world.browser with
    elements := [⟨"el-1", .id, "n", none, "p", "draft", [], true, true, false, [], none, false⟩] } }

/-- The note is read and then changes by itself, and it is clicked on. -/
def noteTurns : List Turn :=
  [.perform (.bind "note/locator" "id"), .perform (.bind "note/locator/id" "n"),
    .perform (.value "note"),
    .outside fun w => { w with browser := w.browser.apply (.setText "el-1" "final") },
    .perform (.click "note")]

/-- After the click the value of the note is its new text, which was read since. -/
theorem note_read_again :
    (standard.perform (.value "note") (standard.after noteTurns (begin .empty noteWorld))).1 =
        .ok (.text "final") ∧
      ∃ ρ : LiveReading, ρ.locator.element = "note" ∧ ρ.text = "final" ∧
        ρ.Genuine standard.resolver ∧
        ρ ∈ (standard.perform (.value "note")
          (standard.after noteTurns (begin .empty noteWorld))).2.readings ∧
        ∀ before turn later, noteTurns = before ++ turn :: later →
          turn.Outdates standard (standard.after before (begin .empty noteWorld)) →
          ∃ new, (standard.perform (.value "note")
              (standard.after noteTurns (begin .empty noteWorld))).2.readings =
            new ++ (standard.after (before ++ [turn]) (begin .empty noteWorld)).readings ∧
            ρ ∈ new := by
  have hv : (standard.perform (.value "note")
      (standard.after noteTurns (begin .empty noteWorld))).1 = .ok (.text "final") := by
    have hvalue : (standard.resolver.value "note"
        (standard.after noteTurns (begin .empty noteWorld))).1.toOption = some "final" := by
      decide +kernel
    rcases hrun : standard.resolver.value "note"
      (standard.after noteTurns (begin .empty noteWorld)) with ⟨e | v, t⟩
    · rw [hrun] at hvalue
      cases hvalue
    · rw [hrun] at hvalue
      cases hvalue
      rw [perform, saying, resolving, Act.bind_run_ok (Act.failingAs_run_ok _ hrun)]
      rfl
  have hentries : (standard.after noteTurns (begin .empty noteWorld)).store.entries =
      [("note/click", "true"), ("note/text", ""), ("note/locator/id", "n"),
        ("note/locator", "id")] := by decide +kernel
  refine ⟨hv, value_read_since standard (live_ofSettings rfl _ _ _) noteWorld noteTurns "note"
    "final" ?_ rfl ?_ hv⟩
  · simp only [noteTurns, List.forall_mem_cons, Turn.Binds, Operation.Binds]
    exact ⟨by decide, by decide, id, id, id, List.forall_mem_nil _⟩
  · rw [hentries]
    decide

end Session

end Bindery
