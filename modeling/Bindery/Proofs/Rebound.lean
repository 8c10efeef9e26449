import Bindery.Proofs.Coherence
import Bindery.Proofs.Features

/-!
# Bindery — Proofs — Rebound

A text that its caller bound for an element, in place of one that was read from the page.  What was
read is forgotten by its text: a binding is emptied if it holds what was read, whoever made it
(`current_find?_forgetLiveText`).  So a text of the caller's own stands through whatever happens to
other elements if it differs from the text that is remembered for its element
(`Rebound`, `rebound_after`), and one that is the same is lost with what was read
(`same_text_is_lost`).

While the text stands its element is not read from the page, as every scan of its name finds the
text; so what is remembered for the element does not change either, until it is forgotten.
-/

namespace Bindery

namespace ScopeStack

variable {s : ScopeStack} {key v : String}

theorem current_find?_set_other {other : String} (hkey : other ≠ key) (value : String)
    (h : s.current.entries.find? key = some v) :
    (s.set other value).current.entries.find? key = some v := by
  rw [current_set]
  exact (Entries.find?_put_other hkey.symm value _).trans h

/-! ### What forgetting leaves -/

theorem current_find?_forget (h : s.current.entries.find? key = some v) (read : String × String) :
    (Resolver.forget s read).current.entries.find? key =
      some (if read = (key, v) then "" else v) := by
  obtain ⟨other, text⟩ := read
  unfold Resolver.forget
  by_cases hkey : other = key
  · subst hkey
    simp only [find?_of_current h, Option.some.injEq, Prod.mk.injEq, true_and]
    by_cases htext : v = text
    · rw [if_pos htext, if_pos htext.symm, current_set]
      exact Entries.find?_put_self _ _ _
    · rw [if_neg htext, if_neg (Ne.symm htext)]
      exact h
  · rw [if_neg fun heq : (other, text) = (key, v) => hkey (congrArg Prod.fst heq)]
    split
    · exact current_find?_set_other hkey _ h
    · exact h

theorem current_find?_foldl_forget (reads : Entries)
    (h : s.current.entries.find? key = some v) :
    (reads.foldl Resolver.forget s).current.entries.find? key =
      some (if (key, v) ∈ reads then "" else v) := by
  induction reads generalizing s v with
  | nil => simpa using h
  | cons read reads ih =>
      rw [List.foldl_cons, ih (current_find?_forget h read)]
      by_cases hread : read = (key, v)
      · simp [hread]
      · simp [hread, Ne.symm hread]

end ScopeStack

/-- Where the innermost scope binds a text it is emptied exactly if it is remembered as read. -/
theorem State.current_find?_forgetLiveText {s : State} {key v : String}
    (h : s.store.current.entries.find? key = some v) :
    s.forgetLiveText.store.current.entries.find? key =
      some (if (key, v) ∈ s.liveReads then "" else v) :=
  ScopeStack.current_find?_foldl_forget s.liveReads h

/-! ### Texts that stand -/

/-- The page scope on top binds a text for an element that is not the one remembered as read. -/
structure Rebound (X v : String) (s : State) : Prop where
  page : s.store.current.kind = .page
  bound : s.store.current.entries.find? (Key.text X) = some v
  unread : (Key.text X, v) ∉ s.liveReads

namespace Rebound

variable {X v : String} {s : State}

theorem set (h : Rebound X v s) {key : String} (hkey : key ≠ Key.text X) (value : String) :
    Rebound X v { s with store := s.store.set key value } where
  page := by rw [ScopeStack.current_set]; exact h.page
  bound := ScopeStack.current_find?_set_other hkey value h.bound
  unread := h.unread

theorem forgetLiveText (h : Rebound X v s) : Rebound X v s.forgetLiveText where
  page := by
    obtain ⟨below, hpage⟩ := Session.exists_onPage_iff.2 h.page
    exact Session.exists_onPage_iff.1 ⟨below, hpage.forgetLiveText⟩
  bound := by rw [State.current_find?_forgetLiveText h.bound, if_neg h.unread]
  unread := List.not_mem_nil

theorem hearing (h : Rebound X v s) {l : Locator} (hl : l.element ≠ X) (w : World)
    (text : String) : Rebound X v (s.hearing l w text) where
  page := (h.set (fun hkey => hl (Key.text_injective hkey)) text).page
  bound := (h.set (fun hkey => hl (Key.text_injective hkey)) text).bound
  unread hread := by
    rcases Entries.mem_put_iff.1 hread with heq | ⟨hread, -⟩
    · exact hl (Key.text_injective (congrArg Prod.fst heq)).symm
    · exact h.unread hread

/-- An element whose text stands has something that a scan finds. -/
theorem scan_ne_none (h : Rebound X v s) (hv : v ≠ "") : s.store.scan X ≠ .ok none := by
  intro hscan
  have hmem : (Key.text X, v) ∈ s.store.entries :=
    ScopeStack.mem_entries_iff.2 (.inl (Entries.mem_of_find? h.bound))
  exact hv (ScopeStack.text_empty_of_scan hscan hmem rfl)

/-- Binding a key in a scope of some kind leaves the text, unless it is bound anew on the page. -/
theorem setIn (h : Rebound X v s) {kind : ScopeKind} {key value : String} {store : ScopeStack}
    (hkey : ¬ (kind = .page ∧ key = Key.text X)) (hset : s.store.setIn kind key value = .ok store) :
    Rebound X v { s with store } := by
  obtain ⟨below, hstore⟩ := ScopeStack.exists_under (s := s.store) (by rw [h.page]; decide)
  rw [hstore, ScopeStack.setIn, ScopeStack.changeIn_under, h.page] at hset
  split at hset
  next hkind =>
    cases hset
    refine ⟨h.page, ?_, h.unread⟩
    exact (Entries.find?_put_other (fun heq => hkey ⟨hkind.symm, heq.symm⟩) _ _).trans h.bound
  next =>
    cases hbelow : below.changeIn kind (Scope.set key value) with
    | error e => rw [hbelow] at hset; cases hset
    | ok below' =>
        rw [hbelow] at hset
        cases hset
        exact ⟨h.page, h.bound, h.unread⟩

end Rebound

/-! ### Turns that leave a text -/

/-- Whether an operation that ended so may take away the text that is bound for an element on the
page, or put another one in its place: it binds the text there, acts on the element, or empties the
page scope or drops it. -/
def Operation.Supplants (X : String) : Operation → Except StepFault Answer → Prop
  | .bind key _, _ => key = Key.text X
  | .bindIn kind key _, _ => kind = .page ∧ key = Key.text X
  | .bindAndWait element action _, _ => Key.action element action = Key.text X
  | .beginFeature _, r | .endFeature, r | .resetPage, r | .navigate _, r => ∃ a, r = .ok a
  | op, _ => ∃ d, op.deed? = some d ∧ d.element = X

namespace Operation

variable {op : Operation} {X : String} {r : Except StepFault Answer}

theorem supplants_of_deed? {d : Deed} (hdeed : op.deed? = some d) (hd : d.element = X) :
    op.Supplants X r := by
  cases op <;> cases hdeed <;> exact ⟨_, rfl, hd⟩

theorem not_binds_of_not_supplants (hop : ¬ op.Rescopes) (h : ¬ op.Supplants X r) :
    ¬ op.Binds (Key.text X) := by
  cases op <;> first | exact h | exact id | exact absurd trivial hop

end Operation

namespace Session

variable {x : Session} {X v : String} {s : State}

/-- Whether a turn from a state may take away the text that is bound for an element, or put another
one in its place. -/
def Turn.Supplants (x : Session) (X : String) (s : State) : Turn → Prop
  | .perform op => op.Supplants X (x.perform op s).1
  | .outside _ => False

theorem admits_rebound (x : Session) (X : String) (hv : v ≠ "") :
    x.Admits (fun key => key ≠ Key.text X) (fun element => element ≠ X)
      (.keeping (Rebound X v)) where
  lookups := by
    refine Resolver.permits_of_world (fun _ _ h => ⟨h.page, h.bound, h.unread⟩)
      (fun _ url h => h.set (Key.currentUrl_ne_text X) url) ?_
    intro room name text l s t w hscan hl _ hdone h
    refine (hdone h).hearing ?_ w text
    rintro rfl
    rw [Resolver.element_of_locatorAt hl] at h
    exact h.scan_ne_none hv hscan
  world _ _ h := ⟨h.page, h.bound, h.unread⟩
  set _ _ value hkey h := h.set hkey value
  outdate s element helement :=
    done_invalidateText (fun _ h => h.forgetLiveText)
      (fun _ h => h.set (fun hkey => helement (Key.text_injective hkey)) "") s

/-- Going to another address empties the page scope last, so a failure leaves what was bound. -/
theorem rebound_navigate (hv : v ≠ "") (h : Rebound X v s) {url : String} {e : StepFault}
    {t : State} (hfails : x.navigate url s = (.error e, t)) : Rebound X v t := by
  have admits := admits_rebound x X hv
  have hlookup := admits.lookups.within_interpolate url
  cases x.navigates url s with
  | lost hu hrun =>
      cases hrun.symm.trans hfails
      exact hlookup.keeps h hu
  | refused hlive hu hgo hrun =>
      cases hrun.symm.trans hfails
      exact admits.world _ _ (hlookup.keeps h hu)
  | dry hdry hu hrun => cases hrun.symm.trans hfails
  | gone hlive hu hgo hrun => cases hrun.symm.trans hfails

theorem rebound_take (hv : v ≠ "") (h : Rebound X v s) {turn : Turn}
    (hturn : ¬ turn.Supplants x X s) : Rebound X v (x.take s turn) := by
  cases turn with
  | outside change => exact ⟨h.page, h.bound, h.unread⟩
  | perform op =>
      by_cases hop : op.Rescopes
      · cases op with
        | bindIn kind key value =>
            have hkept : Act.Within (.keeping (Rebound X v))
                (quietly (rebinding fun s => s.setIn kind key value)) :=
              within_quietly (within_rebinding fun _ _ hset h => h.setIn hturn hset)
            exact hkept.keeps h rfl
        | beginFeature name => exact absurd ⟨_, rfl⟩ hturn
        | endFeature =>
            cases hend : (x.perform .endFeature s).1 with
            | error e =>
                show Rebound X v (x.perform .endFeature s).2
                rw [(endFeature_fails_iff s).2 e hend]
                exact h
            | ok a => exact absurd ⟨a, hend⟩ hturn
        | resetPage => exact absurd ⟨_, rfl⟩ hturn
        | navigate url =>
            have hperform : x.perform (.navigate url) s = quietly (x.navigate url) s := rfl
            rcases hrun : x.navigate url s with ⟨e | ⟨⟩, t⟩
            · show Rebound X v (x.perform (.navigate url) s).2
              rw [hperform, quietly_run, hrun]
              exact rebound_navigate hv h hrun
            · refine absurd ⟨.nothing, ?_⟩ hturn
              rw [hperform, quietly_run, hrun]
              rfl
        | _ => cases hop
      · have hkept := (admits_rebound x X hv).within_perform hop
          (Operation.keys_ne_text (Operation.not_binds_of_not_supplants hop hturn))
          fun d hdeed hd => hturn (Operation.supplants_of_deed? hdeed hd)
        exact hkept.keeps h rfl

/-- A run leaves a text if none of its turns, in the state that it is taken from, may take it
away. -/
theorem rebound_after (hv : v ≠ "") (h : Rebound X v s) (turns : List Turn)
    (hturns : ∀ before turn later, turns = before ++ turn :: later →
      ¬ turn.Supplants x X (x.after before s)) : Rebound X v (x.after turns s) := by
  induction turns generalizing s with
  | nil => exact h
  | cons turn turns ih =>
      refine ih (rebound_take hv h (hturns [] turn turns rfl)) fun before next later hsplit => ?_
      exact hturns (turn :: before) next later (by rw [hsplit]; rfl)

/-! ### What becomes of a text of the caller's own -/

/-- The text of an element is found, and the element has it for its value where nothing else that
is bound for it comes first. -/
structure Stands (x : Session) (X v : String) (s : State) : Prop where
  found : s.store.find? (Key.text X) = some v
  value : s.store.firstOf? X = some (.text, v) → x.perform (.value X) s = (.ok (.text v), s)

theorem stands_of_rebound (h : Rebound X v s) : x.Stands X v s where
  found := ScopeStack.find?_of_current h.bound
  value hfirst := by
    have hscan : s.store.scan X = .ok (some (.literal v)) := by
      rw [ScopeStack.scan, hfirst]
      rfl
    exact perform_value_of_literal hscan

/-- **A text of the caller's own stands if it is not the one that was read.**  Take a text that is
bound for an element on the page.  If it is remembered as read from the element, it is emptied when
what was read is forgotten, and otherwise it stays then.  And if it is not, it stands through every
run that does not bind the text of the element on the page, nor acts on the element, nor empties or
drops the page scope: it is found, the element has it for its value where nothing else comes first,
and this is so after what was read is forgotten too. -/
theorem rebound_stands_unless_read (x : Session) {X v : String} (hv : v ≠ "") (s : State)
    (hpage : s.store.current.kind = .page) :
    (x.take s (.perform (.bind (Key.text X) v))).forgetLiveText.store.find? (Key.text X) =
        some (if (Key.text X, v) ∈ s.liveReads then "" else v) ∧
      ((Key.text X, v) ∉ s.liveReads → ∀ turns : List Turn,
        (∀ before turn later, turns = before ++ turn :: later →
          ¬ turn.Supplants x X (x.after (.perform (.bind (Key.text X) v) :: before) s)) →
        x.Stands X v (x.after (.perform (.bind (Key.text X) v) :: turns) s) ∧
        x.Stands X v (x.after (.perform (.bind (Key.text X) v) :: turns) s).forgetLiveText) := by
  have hbound : (x.take s (.perform (.bind (Key.text X) v))).store.current.entries.find?
      (Key.text X) = some v := by
    show (s.store.set (Key.text X) v).current.entries.find? (Key.text X) = some v
    rw [ScopeStack.current_set]
    exact Entries.find?_put_self _ _ _
  refine ⟨ScopeStack.find?_of_current (State.current_find?_forgetLiveText hbound),
    fun hread turns hturns => ?_⟩
  have hkind : (x.take s (.perform (.bind (Key.text X) v))).store.current.kind = .page := by
    show (s.store.set (Key.text X) v).current.kind = .page
    rw [ScopeStack.current_set]
    exact hpage
  have hstart : Rebound X v (x.take s (.perform (.bind (Key.text X) v))) := ⟨hkind, hbound, hread⟩
  have hend := rebound_after hv hstart turns hturns
  exact ⟨stands_of_rebound hend, stands_of_rebound hend.forgetLiveText⟩

/-- The state after a note was read from a page with a note and a button on it. -/
def noteRead : State :=
  let button := ⟨"el-2", .id, "b", none, "button", "", [], true, true, false, [], none, false⟩
  let world := { noteWorld with
    browser := { noteWorld.browser with elements := noteWorld.browser.elements ++ [button] } }
  standard.after
    [.perform (.bind "note/locator" "id"), .perform (.bind "note/locator/id" "n"),
      .perform (.bind "button/locator" "id"), .perform (.bind "button/locator/id" "b"),
      .perform (.value "note")]
    (begin .empty world)

theorem not_supplants_click {s : State} :
    ¬ (Turn.perform (.click "button")).Supplants x "note" s := by
  rintro ⟨d, hdeed, hd⟩
  cases hdeed
  exact absurd hd (by decide)

/-- Another text that is bound for the note stands when the button is clicked on. -/
theorem other_text_stands :
    "final" ≠ "" ∧ noteRead.store.current.kind = .page ∧
      (Key.text "note", "final") ∉ noteRead.liveReads ∧
      standard.Stands "note" "final" (standard.after
        [.perform (.bind (Key.text "note") "final"), .perform (.click "button")] noteRead) := by
  have hne : "final" ≠ "" := by decide
  have hpage : noteRead.store.current.kind = .page := by decide +kernel
  have hread : (Key.text "note", "final") ∉ noteRead.liveReads := by decide +kernel
  refine ⟨hne, hpage, hread, ?_⟩
  refine ((rebound_stands_unless_read standard hne noteRead hpage).2 hread
    [.perform (.click "button")] ?_).1
  intro before turn later hsplit
  obtain ⟨-, rfl, -⟩ : before = [] ∧ turn = .perform (.click "button") ∧ later = [] := by
    simpa [eq_comm, List.append_eq_singleton_iff] using hsplit
  exact not_supplants_click

/-- The text that was read is emptied when the button is clicked on, though it was bound anew. -/
theorem same_text_is_lost :
    "draft" ≠ "" ∧ noteRead.store.current.kind = .page ∧
      ¬ (Turn.perform (.click "button")).Supplants standard "note"
        (standard.take noteRead (.perform (.bind (Key.text "note") "draft"))) ∧
      (standard.after [.perform (.bind (Key.text "note") "draft"), .perform (.click "button")]
        noteRead).store.find? (Key.text "note") = some "" :=
  ⟨by decide, by decide +kernel, not_supplants_click, by decide +kernel⟩

end Session

end Bindery
