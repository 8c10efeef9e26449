import Bindery.Proofs.Features
import Bindery.Proofs.Journals
import Bindery.Proofs.Outcome

/-!
# Bindery — Proofs — Outer text

What is left of the texts of an element after an action on it.  The action empties the text in the
page scope, where texts that were read stand; a text in a scope below stays, and is seen through the
empty one (`action_spares_outer_texts`).  Only an initial binding or one that was made for a kind of
scope can have put it there, and where there is none the element is read anew.

A session changes its bindings by changes of a stack only (`within_changing_perform`), so each scope
binds each key once: what was emptied is not bound a second time in the same scope.
-/

namespace Bindery

namespace ScopeStack

/-! ### Stacks that come from changes -/

/-- One stack comes from another by changes. -/
def Changed (s t : ScopeStack) : Prop := ∃ changes, t = s.run changes

theorem Changed.refl (s : ScopeStack) : Changed s s := ⟨[], rfl⟩

theorem Changed.trans {s t u : ScopeStack} (h₁ : Changed s t) (h₂ : Changed t u) :
    Changed s u := by
  obtain ⟨before, rfl⟩ := h₁
  obtain ⟨later, rfl⟩ := h₂
  exact ⟨before ++ later, (run_append s before later).symm⟩

theorem Changed.set (key value : String) (s : ScopeStack) : Changed s (s.set key value) :=
  ⟨[.set key value], rfl⟩

theorem once_of_kept {js : List Journal} {l : List Scope} (h : List.Forall₂ Journal.Kept js l) :
    ∀ scope ∈ l, (scope.entries.map Prod.fst).Nodup := by
  induction h with
  | nil => exact fun _ h => absurd h List.not_mem_nil
  | cons hj _ ih => exact List.forall_mem_cons.2 ⟨hj.entries.once, ih⟩

/-- In a stack that comes from nothing, each scope binds each key once. -/
theorem once_of_changed {s : ScopeStack} (h : Changed .empty s) :
    ∀ scope ∈ s.scopes, (scope.entries.map Prod.fst).Nodup := by
  obtain ⟨changes, rfl⟩ := h
  exact once_of_kept (stack_keeps_journals changes).1

/-! ### Where a binding comes from -/

/-- Whether a change binds a key to a value. -/
def Change.Binds (key value : String) : Change → Prop
  | .set k v | .setIn _ k v => k = key ∧ v = value
  | _ => False

/-- A scope of a changed list is an old one, or an old one that was changed. -/
theorem mem_modify {f : Scope → Scope} {l : List Scope} {n : Nat} {scope : Scope}
    (h : scope ∈ l.modify n f) : ∃ old ∈ l, scope = old ∨ scope = f old := by
  induction l generalizing n with
  | nil => cases n <;> simp at h
  | cons top rest ih =>
      cases n with
      | zero =>
          rw [List.modify_zero_cons] at h
          rcases List.mem_cons.1 h with rfl | h
          · exact ⟨top, List.mem_cons_self, .inr rfl⟩
          · exact ⟨scope, List.mem_cons_of_mem _ h, .inl rfl⟩
      | succ n =>
          rw [List.modify_succ_cons] at h
          rcases List.mem_cons.1 h with rfl | h
          · exact ⟨scope, List.mem_cons_self, .inl rfl⟩
          · obtain ⟨old, hold, he⟩ := ih h
            exact ⟨old, List.mem_cons_of_mem _ hold, he⟩

theorem mem_set_scope {scope : Scope} {k v key value : String}
    (h : (key, value) ∈ (scope.set k v).entries) :
    (k = key ∧ v = value) ∨ (key, value) ∈ scope.entries := by
  rcases Entries.mem_put_iff.1 h with h | h
  · cases h
    exact .inl ⟨rfl, rfl⟩
  · exact .inr h.1

/-- A binding in a stack was there before a change, or the change made it. -/
theorem mem_change {s : ScopeStack} {c : Change} {scope : Scope} {key value : String}
    (hscope : scope ∈ (s.change c).scopes) (h : (key, value) ∈ scope.entries) :
    (∃ old ∈ s.scopes, (key, value) ∈ old.entries) ∨ c.Binds key value := by
  cases c with
  | set k v =>
      rw [change, scopes_set] at hscope
      rcases List.mem_cons.1 hscope with rfl | hscope
      · refine (mem_set_scope h).symm.imp_left fun h => ⟨s.current, ?_, h⟩
        rw [scopes_eq_current]
        exact List.mem_cons_self
      · exact .inl ⟨scope, List.mem_of_mem_tail hscope, h⟩
  | setIn kind k v =>
      rw [change, setIn, scopes_changeIn kind (f := Scope.set k v) fun _ => ⟨rfl, rfl⟩] at hscope
      obtain ⟨old, hold, rfl | rfl⟩ := mem_modify hscope
      · exact .inl ⟨scope, hold, h⟩
      · exact (mem_set_scope h).symm.imp_left fun h => ⟨old, hold, h⟩
  | push kind name =>
      rcases List.mem_cons.1 hscope with rfl | hscope
      · cases h
      · exact .inl ⟨scope, hscope, h⟩
  | pop kind =>
      rw [change] at hscope
      cases hpop : s.pop kind with
      | error e => rw [hpop] at hscope; exact .inl ⟨scope, hscope, h⟩
      | ok p =>
          have hkind : kind ≠ .global := by
            rintro rfl
            cases hpop
          have hscope : scope ∈ p.2.scopes := by rwa [hpop] at hscope
          rw [scopes_of_pop_eq hkind hpop] at hscope
          have hold := (List.dropWhile_sublist _).subset (List.mem_of_mem_tail hscope)
          exact .inl ⟨scope, hold, h⟩
  | reset kind =>
      rw [change, reset, scopes_changeIn kind (f := Scope.clear) fun _ => ⟨rfl, rfl⟩] at hscope
      obtain ⟨old, hold, rfl | rfl⟩ := mem_modify hscope
      · exact .inl ⟨scope, hold, h⟩
      · cases h

/-- A binding in a stack after changes was there before, or one of them made it. -/
theorem mem_run {s : ScopeStack} {changes : List Change} {scope : Scope} {key value : String}
    (hscope : scope ∈ (s.run changes).scopes) (h : (key, value) ∈ scope.entries) :
    (∃ old ∈ s.scopes, (key, value) ∈ old.entries) ∨ ∃ c ∈ changes, c.Binds key value := by
  induction changes generalizing s with
  | nil => exact .inl ⟨scope, hscope, h⟩
  | cons c changes ih =>
      rcases ih hscope with ⟨old, hold, hmem⟩ | ⟨later, hlater, hbinds⟩
      · exact (mem_change hold hmem).imp_right fun hbinds => ⟨c, List.mem_cons_self, hbinds⟩
      · exact .inr ⟨later, List.mem_cons_of_mem _ hlater, hbinds⟩

end ScopeStack

/-! ### Texts in the innermost scope and below it -/

/-- A key is bound to something that is not empty. -/
def Entries.Holds (key : String) (e : Entries) : Prop := ∃ p ∈ e, p.1 = key ∧ p.2 ≠ ""

instance (key : String) (e : Entries) : Decidable (e.Holds key) :=
  inferInstanceAs (Decidable (∃ p ∈ e, p.1 = key ∧ p.2 ≠ ""))

/-- Below the innermost scope, a key is bound to something that is not empty. -/
def ScopeStack.HoldsBelow (key : String) (s : ScopeStack) : Prop :=
  ∃ scope ∈ s.scopes.tail, scope.entries.Holds key

instance (key : String) (s : ScopeStack) : Decidable (s.HoldsBelow key) :=
  inferInstanceAs (Decidable (∃ scope ∈ s.scopes.tail, scope.entries.Holds key))

theorem ScopeStack.holds_iff {s : ScopeStack} {key : String} :
    s.entries.Holds key ↔ s.current.entries.Holds key ∨ s.HoldsBelow key := by
  constructor
  · rintro ⟨p, hmem, hp⟩
    rcases mem_entries_iff.1 hmem with hmem | ⟨scope, hscope, hmem⟩
    · exact .inl ⟨p, hmem, hp⟩
    · exact .inr ⟨scope, hscope, p, hmem, hp⟩
  · rintro (⟨p, hmem, hp⟩ | ⟨scope, hscope, p, hmem, hp⟩)
    · exact ⟨p, mem_entries_iff.2 (.inl hmem), hp⟩
    · exact ⟨p, mem_entries_iff.2 (.inr ⟨scope, hscope, hmem⟩), hp⟩

/-- No entry of another kind than a text gives a name a value. -/
def ScopeStack.OnlyTexts (name : String) (s : ScopeStack) : Prop :=
  ∀ p ∈ s.entries, p.2 ≠ "" →
    AttributeKind.ofKey? name p.1 = none ∨ AttributeKind.ofKey? name p.1 = some .text

instance (name : String) (s : ScopeStack) : Decidable (s.OnlyTexts name) :=
  inferInstanceAs (Decidable (∀ p ∈ s.entries, p.2 ≠ "" →
    AttributeKind.ofKey? name p.1 = none ∨ AttributeKind.ofKey? name p.1 = some .text))

namespace Session

open ScopeStack (Change Changed)

variable {x : Session} {s : State} {below : ScopeStack}

theorem OnPage.holdsBelow_iff (h : OnPage below s) {key : String} :
    s.store.HoldsBelow key ↔ ∃ scope ∈ below.scopes, scope.entries.Holds key := by
  obtain ⟨page, -, hs⟩ := h
  rw [hs]
  rfl

/-- A turn binds something below the page scope only where it is asked to. -/
theorem binds_of_changes {turn : Turn} {c : Change} {key value : String}
    (hc : c ∈ turn.changes) (hbinds : c.Binds key value) :
    ∃ kind, kind ≠ .page ∧ turn = .perform (.bindIn kind key value) := by
  unfold Turn.changes at hc
  split at hc
  next kind k v =>
    split at hc
    next => cases hc
    next hkind =>
      obtain rfl := List.mem_singleton.1 hc
      obtain ⟨rfl, rfl⟩ := hbinds
      exact ⟨kind, hkind, rfl⟩
  next =>
    obtain rfl := List.mem_singleton.1 hc
    exact hbinds.elim
  next =>
    obtain rfl := List.mem_singleton.1 hc
    exact hbinds.elim
  next => cases hc

/-- What a session binds below its page scope after some turns was there when it began, or was bound
for a kind of scope. -/
theorem holdsBelow_after (h : OnPage below s) {turns : List Turn} {key : String}
    (hholds : (x.after turns s).store.HoldsBelow key) :
    s.store.HoldsBelow key ∨
      ∃ kind v, kind ≠ .page ∧ v ≠ "" ∧ .perform (.bindIn kind key v) ∈ turns := by
  obtain ⟨scope, hscope, ⟨_, v⟩, hmem, rfl, hv⟩ := (onPage_after h turns).holdsBelow_iff.1 hholds
  rcases ScopeStack.mem_run hscope hmem with ⟨old, hold, hmem⟩ | ⟨c, hc, hbinds⟩
  · exact .inl (h.holdsBelow_iff.2 ⟨old, hold, _, hmem, rfl, hv⟩)
  · obtain ⟨turn, hturn, hc⟩ := List.mem_flatMap.1 hc
    obtain ⟨kind, hkind, rfl⟩ := binds_of_changes hc hbinds
    exact .inr ⟨kind, v, hkind, hv, hturn⟩

/-! ### Sessions change their bindings by changes of a stack -/

/-- The bounds of what changes the bindings by changes of a stack. -/
def changing : Bounds State :=
  (Bounds.ofRelation Changed Changed.refl fun _ _ _ => .trans).comap State.store

theorem changed_forgetLiveText (s : State) : changing.done s s.forgetLiveText :=
  Resolver.foldl_forget (P := Changed s.store) (fun _ _ _ h => .trans h (.set _ _ _)) s.liveReads
    (.refl _)

theorem admits_changing (x : Session) :
    x.Admits (fun _ => True) (fun _ => True) changing where
  lookups := Resolver.permits_of_world (fun _ _ => .refl _) (fun _ _ => .set _ _ _)
    fun _ _ _ hdone => .trans hdone (.set _ _ _)
  world _ _ := .refl _
  set _ _ _ _ := .set _ _ _
  outdate s _ _ := done_invalidateText changed_forgetLiveText (fun _ => .set _ _ _) s

theorem changed_emptyPage (store : ScopeStack) : Changed store (emptyPage store) := by
  unfold emptyPage
  cases h : store.reset .page with
  | error e => exact ⟨[.push .page pageName], rfl⟩
  | ok s =>
      refine ⟨[.reset .page], ?_⟩
      show s = store.change (.reset .page)
      rw [ScopeStack.change, h]
      rfl

theorem within_changing_resetPage : Act.Within changing resetPage :=
  .modify fun s => changing.trans (changed_forgetLiveText s) (changed_emptyPage _)

theorem changed_beginFeature (name : String) (store : ScopeStack) :
    Changed store (beginFeature name store) := by
  refine ⟨[.pop .page, .push .feature name, .push .page pageName], ?_⟩
  show _ = ((store.change (.pop .page)).push .feature name).push .page pageName
  rw [beginFeature, ScopeStack.change]
  cases store.pop .page <;> rfl

theorem changed_endFeature {store store' : ScopeStack} (h : endFeature store = .ok store') :
    Changed store store' := by
  refine ⟨[.pop .feature, .push .page pageName], ?_⟩
  show _ = (store.change (.pop .feature)).push .page pageName
  unfold endFeature at h
  rw [ScopeStack.change]
  cases hpop : store.pop .feature with
  | error e => rw [hpop] at h; cases h
  | ok p => rw [hpop] at h; cases h; rfl

/-- Every operation changes the bindings by changes of a stack, however it ends. -/
theorem within_changing_perform (op : Operation) : Act.Within changing (x.perform op) := by
  by_cases hop : op.Rescopes
  · cases op with
    | bindIn kind key value =>
        refine within_quietly (within_rebinding fun s store hset => ⟨[.setIn kind key value], ?_⟩)
        show store = s.store.change (.setIn kind key value)
        rw [ScopeStack.change, hset]
        rfl
    | beginFeature name =>
        refine within_quietly (within_rebinding fun s store hbegin => ?_)
        cases hbegin
        exact changed_beginFeature name s.store
    | endFeature =>
        exact within_quietly (within_rebinding fun s store hend => changed_endFeature hend)
    | resetPage => exact within_quietly within_changing_resetPage
    | navigate url => exact (admits_changing x).within_navigate within_changing_resetPage url
    | _ => cases hop
  · exact (admits_changing x).within_perform hop (fun _ _ => trivial) fun _ _ => trivial

theorem changed_after (turns : List Turn) (s : State) :
    Changed s.store (x.after turns s).store := by
  induction turns generalizing s with
  | nil => exact .refl _
  | cons turn turns ih =>
      rw [after_cons]
      refine .trans ?_ (ih _)
      cases turn with
      | perform op => exact Act.Ends.of_within (within_changing_perform op) s
      | outside change => exact .refl _

theorem changed_begin (initial : ScopeStack) (w : World) :
    Changed initial (begin initial w).store := by
  show Changed initial (withPage initial)
  unfold withPage
  split
  · exact .refl _
  · exact ⟨[.push .page pageName], rfl⟩

/-! ### The action -/

/-- Where each key is bound once, no text of an element is left in the innermost scope. -/
theorem not_holds_invalidateText {E : String}
    (honce : (s.forgetLiveText.store.current.entries.map Prod.fst).Nodup) :
    ¬ (invalidateText E s).store.current.entries.Holds (Key.text E) := by
  rintro ⟨⟨_, v⟩, hmem, rfl, hv⟩
  have hfind (h : (Key.text E, v) ∈ s.forgetLiveText.store.current.entries) :
      s.forgetLiveText.store.find? (Key.text E) = some v :=
    ScopeStack.find?_of_current (Entries.find?_of_mem honce h)
  unfold invalidateText at hmem
  simp only at hmem
  split at hmem
  next hnone => rw [hfind hmem] at hnone; cases hnone
  next hempty =>
    rw [hfind hmem] at hempty
    exact hv (Option.some.inj hempty)
  next =>
    rw [ScopeStack.current_set] at hmem
    rcases Entries.mem_put_iff.1 hmem with hmem | ⟨-, hne⟩
    · exact hv (Prod.mk.inj hmem).2
    · exact hne rfl

/-- After an action that was done, no text of its element is left in the innermost scope. -/
theorem not_holds_of_done (hlive : x.settings.dryRun = false) {op : Operation} {d : Deed}
    (hop : op.deed? = some d) (hstore : Changed .empty s.store) (hdone : x.Done d s) :
    ¬ (x.perform op s).2.store.current.entries.Holds (Key.text d.element) := by
  obtain ⟨l, t, w, hl, hd⟩ := hdone
  have hchanged : Changed s.store t.store := by
    have := Act.Ends.of_within ((admits_changing x).lookups.within_locator d.element) s
    rwa [hl] at this
  have honce := ScopeStack.once_of_changed (.trans hstore
    (.trans hchanged (changed_forgetLiveText { t with world := w }))) _
    (by rw [ScopeStack.scopes_eq_current]; exact List.mem_cons_self)
  rw [Operation.perform_of_deed? x hop, quietly_run, act_of_deed_ok hlive hl hd]
  rw [(bindAndWait_outcome hlive d.element d.action d.value _).2, ScopeStack.current_set]
  -- the value of the action is bound under another key
  rintro ⟨p, hmem, hkey, hv⟩
  rcases Entries.mem_put_iff.1 hmem with rfl | ⟨hmem, -⟩
  · exact Operation.key_ne_text hop _ hkey
  · exact not_holds_invalidateText honce ⟨p, hmem, hkey, hv⟩

end Session

/-! ### The element is read anew -/

/-- The value of a name is the text that is read from the page where its locator leads. -/
def Resolver.ReadsPage {ι : Type} [PageReader ι] (r : Resolver ι) (E : String) (s : State) : Prop :=
  r.value E s = ((r.locatorAt r.maxDepth E).failingAs (Resolver.asUnbound E) >>= r.liveText) s

theorem Resolver.readsPage_of_not_holds {ι : Type} [PageReader ι] {r : Resolver ι} {E : String}
    {s : State}
    (htext : ¬ s.store.entries.Holds (Key.text E)) (hdefault : r.defaults E = none)
    (honly : s.store.OnlyTexts E) : r.ReadsPage E s := by
  have hscan : s.store.scan E = .ok none := by
    rw [ScopeStack.scan_eq_none_iff, ScopeStack.firstOf?_eq_none_iff]
    intro p hp hv
    rcases honly p hp hv with hnone | hkind
    · exact hnone
    · exact absurd ⟨p, hp, AttributeKind.eq_text_of_ofKey? hkind, hv⟩ htext
  rw [ReadsPage, value, valueAt_succ, valueStep_of_unbound hscan]
  simp only [unboundValue, hdefault]

namespace Session

/-- **An action outdates the texts of its element in the page scope, and no others.**  After an
action on an element that was done, a text of it is seen exactly if one stood below the page scope
before.  Such a text was there when the session began, or it was bound for a kind of scope.  Where
there is none, the next value of the element is read from the page, unless it has a binding of
another kind or a default. -/
theorem action_spares_outer_texts (x : Session) (hlive : x.Live)
    (changes : List ScopeStack.Change) (w : World) (turns : List Turn) {op : Operation} {d : Deed}
    (hop : op.deed? = some d)
    (hend : EndsBound (x.perform op (x.after turns (begin (.run .empty changes) w))).1) :
    let start := begin (.run .empty changes) w
    let s := x.after turns start
    let t := (x.perform op s).2
    (t.store.entries.Holds (Key.text d.element) ↔ s.store.HoldsBelow (Key.text d.element)) ∧
      (s.store.HoldsBelow (Key.text d.element) →
        start.store.HoldsBelow (Key.text d.element) ∨ ∃ kind v, kind ≠ .page ∧ v ≠ "" ∧
          .perform (.bindIn kind (Key.text d.element) v) ∈ turns) ∧
      (¬ s.store.HoldsBelow (Key.text d.element) → x.resolver.defaults d.element = none →
        t.store.OnlyTexts d.element → x.resolver.ReadsPage d.element t) := by
  intro start s t
  have hdone : x.Done d s := by
    by_contra hnot
    exact not_endsEarly_of_endsBound hend (endsEarly_of_not_done hlive.1 hop hnot).1
  obtain ⟨below, hstart⟩ := exists_onPage_begin (.run .empty changes) w
  have hs : OnPage (below.run (turns.flatMap Turn.changes)) s := onPage_after hstart turns
  have ht : OnPage (below.run (turns.flatMap Turn.changes)) t := by
    have hnone : Turn.changes (.perform op) = [] := by cases op <;> cases hop <;> rfl
    have := onPage_take (x := x) hs (.perform op)
    rwa [hnone] at this
  have hstore : ScopeStack.Changed .empty s.store :=
    .trans ⟨changes, rfl⟩ (.trans (changed_begin _ w) (changed_after turns start))
  have hseen : t.store.entries.Holds (Key.text d.element) ↔
      s.store.HoldsBelow (Key.text d.element) := by
    rw [ScopeStack.holds_iff, or_iff_right (not_holds_of_done hlive.1 hop hstore hdone),
      hs.holdsBelow_iff, ht.holdsBelow_iff]
  exact ⟨hseen, holdsBelow_after hstart, fun hbelow hdefault honly =>
    Resolver.readsPage_of_not_holds (mt hseen.1 hbelow) hdefault honly⟩

/-- A note is located and a text is bound for it in a kind of scope; then it is clicked on. -/
def noteClicked (kind : ScopeKind) : Except StepFault Answer × State :=
  standard.perform (.click "note")
    (standard.after [.perform (.bind "note/locator" "id"), .perform (.bind "note/locator/id" "n"),
      .perform (.bindIn kind "note/text" "old")] (begin (.run .empty []) noteWorld))

/-- After a text was bound for the note in the page scope, a click outdates it. -/
theorem page_text_outdated :
    standard.Live ∧ EndsBound (noteClicked .page).1 ∧
      standard.resolver.ReadsPage "note" (noteClicked .page).2 := by
  have hend : EndsBound (noteClicked .page).1 := by decide +kernel
  refine ⟨⟨rfl, rfl⟩, hend, ?_⟩
  exact (action_spares_outer_texts standard ⟨rfl, rfl⟩ [] noteWorld _
    (rfl : (Operation.click "note").deed? = _) hend).2.2 (by decide +kernel) rfl
      (by decide +kernel)

/-- After a text was bound for the note in the global scope, it is still the value of the note when
a click was done; the browser is not asked for the text that the page shows. -/
theorem outer_text_outlives_click :
    standard.Live ∧ (noteClicked .global).1.toOption.isSome ∧
      (noteClicked .global).2.store.entries.Holds (Key.text "note") ∧
      (noteClicked .global).2.store.OnlyTexts "note" ∧ standard.resolver.defaults "note" = none ∧
      (standard.resolver.value "note" (noteClicked .global).2).1.toOption = some "old" ∧
      (standard.resolver.value "note" (noteClicked .global).2).2.world.calls =
        (noteClicked .global).2.world.calls :=
  ⟨⟨rfl, rfl⟩, by decide +kernel, by decide +kernel, by decide +kernel, rfl, by decide +kernel,
    by decide +kernel⟩

end Session

end Bindery
