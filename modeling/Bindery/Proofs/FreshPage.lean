import Bindery.Proofs.Calls
import Bindery.Proofs.Coherence
import Bindery.Proofs.Features
import Bindery.Proofs.LookupFrame

/-!
# Bindery — Proofs — Fresh page

What going to an address leaves of a session.  The address is looked up first, and that may read
texts from the page and bind them, but only in the page scope, which keeps its name and the scopes
below it (`PageNamed`).  Once the browser is there the page scope is emptied, and nothing that was
read is remembered until another text is read (`Forgotten`).  Where the browser refuses, or where
the address is not found, the bindings stay as the lookup left them.
-/

namespace Bindery

theorem World.of_navigateTo_ok {url : String} {w w' : World} {u : Unit}
    (h : browse (Browser.navigateTo url) w = (.ok u, w')) :
    w'.browser.url = url ∧ w'.browser.frame = none := by
  unfold browse at h
  rw [Browser.navigateTo, Act.bind_run, Browser.enter_run] at h
  rcases hfail : Browser.takeFailure .navigateTo w.browser.failures with _ | ⟨f, left⟩ <;>
    rw [hfail] at h
  · cases h
    exact ⟨rfl, rfl⟩
  · cases h

namespace ScopeStack

/-! ### The name of the page scope -/

/-- A page scope of a name is on top of a given stack. -/
def PageNamed (below : ScopeStack) (name : String) (s : ScopeStack) : Prop :=
  ∃ entries, s = below.under ⟨.page, name, entries⟩

namespace PageNamed

variable {below s : ScopeStack} {name : String}

theorem set (h : PageNamed below name s) (key value : String) :
    PageNamed below name (s.set key value) := by
  obtain ⟨entries, rfl⟩ := h
  exact ⟨entries.put key value, rfl⟩

theorem emptyPage_eq (h : PageNamed below name s) :
    Session.emptyPage s = below.push .page name := by
  obtain ⟨entries, rfl⟩ := h
  rw [Session.emptyPage_under rfl]
  rfl

end PageNamed

end ScopeStack

namespace Session

open ScopeStack (PageNamed)

variable {x : Session} {below : ScopeStack} {name : String} {start : List LiveReading} {s : State}

theorem OnPage.named (h : OnPage below s) : ∃ name, PageNamed below name s.store := by
  obtain ⟨⟨_, name, entries⟩, rfl, hs⟩ := h
  exact ⟨name, entries, hs⟩

/-- Whatever is looked up, bound or forgotten, the page scope keeps its name. -/
theorem admits_pageNamed (x : Session) (below : ScopeStack) (name : String) :
    x.Admits (fun _ => True) (fun _ => True) (.keeping fun s => PageNamed below name s.store) :=
  admits_of_set fun _ key value h => h.set key value

/-! ### What is remembered as read -/

/-- Nothing is remembered as read, unless a text was read since the log was `start`. -/
def Forgotten (start : List LiveReading) (s : State) : Prop :=
  ∃ new, s.readings = new ++ start ∧ (new = [] → s.liveReads = [])

namespace Forgotten

theorem forgetLiveText (h : Forgotten start s) : Forgotten start s.forgetLiveText := by
  obtain ⟨new, hnew, -⟩ := h
  exact ⟨new, hnew, fun _ => rfl⟩

/-- As long as the log is the same there is nothing to forget. -/
theorem forgetLiveText_eq (h : Forgotten start s) (hlog : s.readings = start) :
    s.forgetLiveText = s := by
  obtain ⟨new, hnew, hempty⟩ := h
  rw [hlog, List.self_eq_append_left] at hnew
  rw [State.forgetLiveText, hempty hnew]
  exact congrArg (fun reads => { s with liveReads := reads }) (hempty hnew).symm

end Forgotten

theorem admits_forgotten (x : Session) (start : List LiveReading) :
    x.Admits (fun _ => True) (fun _ => True) (.keeping (Forgotten start)) where
  lookups := Resolver.permits_of_world (fun _ _ h => h) (fun _ _ h => h)
    fun {_ _ text l s t w} _ _ _ hdone h => by
      obtain ⟨new, hnew, -⟩ := hdone h
      refine ⟨⟨l, t.store, t.world, text⟩ :: new, ?_, fun hnil => ?_⟩
      · rw [State.hearing, hnew, List.cons_append]
      · cases hnil
  world _ _ h := h
  set _ _ _ _ h := h
  outdate s _ _ := done_invalidateText (fun _ h => h.forgetLiveText) (fun _ h => h) s

theorem within_forgotten_resetPage : Act.Within (.keeping (Forgotten start)) resetPage :=
  .modify fun _ h => h.forgetLiveText

theorem within_forgotten_perform (x : Session) (op : Operation) :
    Act.Within (.keeping (Forgotten start)) (x.perform op) := by
  have admits := admits_forgotten x start
  by_cases hop : op.Rescopes
  · cases op with
    | bindIn | beginFeature | endFeature =>
        exact within_quietly (within_rebinding fun _ _ _ h => h)
    | resetPage => exact within_quietly within_forgotten_resetPage
    | navigate url => exact admits.within_navigate within_forgotten_resetPage url
    | _ => cases hop
  · exact admits.within_perform hop (fun _ _ => trivial) fun _ _ => trivial

theorem forgotten_take (h : Forgotten start s) (turn : Turn) : Forgotten start (x.take s turn) := by
  cases turn with
  | outside change => exact h
  | perform op => exact (within_forgotten_perform x op).keeps h rfl

theorem forgotten_after (h : Forgotten start s) (turns : List Turn) :
    Forgotten start (x.after turns s) := by
  induction turns generalizing s with
  | nil => exact h
  | cons turn turns ih => exact ih (forgotten_take h turn)

/-! ### An empty page scope -/

/-- What a session is left with on a new page: an empty page scope is on what was below the last
one, nothing is remembered as read, and as long as no text is read there is nothing to forget,
whatever else happens. -/
structure FreshPage (x : Session) (below : ScopeStack) (name : String) (s : State) : Prop where
  store : s.store = below.push .page name
  unread : s.liveReads = []
  idle : ∀ turns, (x.after turns s).readings = s.readings →
    (x.after turns s).forgetLiveText = x.after turns s

theorem resetPage_run (s : State) :
    resetPage s = (.ok (), { s.forgetLiveText with store := emptyPage s.forgetLiveText.store }) :=
  rfl

theorem freshPage_resetPage (h : PageNamed below name s.store) :
    x.FreshPage below name (resetPage s).2 := by
  have hforgot : PageNamed below name s.forgetLiveText.store :=
    Resolver.foldl_forget (fun _ key value h => h.set key value) s.liveReads h
  rw [resetPage_run]
  refine ⟨hforgot.emptyPage_eq, rfl, fun turns hlog => ?_⟩
  refine (forgotten_after ⟨[], ?_, fun _ => rfl⟩ turns).forgetLiveText_eq hlog
  exact List.nil_append _

/-! ### Going to an address -/

theorem perform_navigate (url : String) (s : State) :
    x.perform (.navigate url) s =
      ((x.navigate url s).1.map fun _ => .nothing, (x.navigate url s).2) :=
  quietly_run _ s

theorem navigate_done_iff {url : String} : (∃ a t, x.perform (.navigate url) s = (.ok a, t)) ↔
    ∃ address u, x.resolver.interpolate url s = (.ok address, u) ∧
      (x.settings.dryRun = false →
        ∃ w, World.browse (Browser.navigateTo address) u.world = (.ok (), w)) := by
  rw [perform_navigate]
  cases x.navigates url s with
  | lost hu hrun =>
      rw [hrun, hu]
      constructor
      · rintro ⟨_, _, h⟩
        cases h
      · rintro ⟨_, _, h, -⟩
        cases h
  | @dry address u hdry hu hrun =>
      rw [hrun, resetPage_run, hu]
      refine ⟨fun _ => ⟨address, u, rfl, fun hlive => ?_⟩, fun _ => ⟨_, _, rfl⟩⟩
      rw [hdry] at hlive
      cases hlive
  | refused hlive hu hgo hrun =>
      rw [hrun, hu]
      constructor
      · rintro ⟨_, _, h⟩
        cases h
      · rintro ⟨_, _, h, hgone⟩
        cases h
        obtain ⟨w, hw⟩ := hgone hlive
        rw [hgo] at hw
        cases hw
  | @gone address u w hlive hu hgo hrun =>
      rw [hrun, resetPage_run, hu]
      exact ⟨fun _ => ⟨address, u, rfl, fun _ => ⟨w, hgo⟩⟩, fun _ => ⟨_, _, rfl⟩⟩

/-- Where going to an address succeeds the page is fresh, and anything else but the world is as the
lookup of the address left it. -/
theorem freshPage_navigate (h : PageNamed below name s.store) {url : String} {a : Answer}
    {t : State} (hdone : x.perform (.navigate url) s = (.ok a, t)) :
    x.FreshPage below name t ∧
      ∃ address u, x.resolver.interpolate url s = (.ok address, u) ∧ t.readings = u.readings ∧
        (x.settings.dryRun = true → t.world = u.world) ∧
        (x.settings.dryRun = false →
          t.world.browser.url = address ∧ t.world.browser.frame = none) := by
  have hlookup := (admits_pageNamed x below name).lookups.within_interpolate url
  rw [perform_navigate] at hdone
  cases x.navigates url s with
  | lost hu hrun =>
      rw [hrun] at hdone
      cases hdone
  | refused hlive hu hgo hrun =>
      rw [hrun] at hdone
      cases hdone
  | @dry address u hdry hu hrun =>
      rw [hrun, resetPage_run] at hdone
      cases hdone
      refine ⟨freshPage_resetPage (hlookup.keeps h hu), address, u, hu, rfl, fun _ => rfl,
        fun hlive => ?_⟩
      rw [hdry] at hlive
      cases hlive
  | @gone address u w hlive hu hgo hrun =>
      rw [hrun, resetPage_run] at hdone
      cases hdone
      have hpage : PageNamed below name u.store := hlookup.keeps h hu
      refine ⟨freshPage_resetPage (s := { u with world := w }) hpage, address, u, hu, rfl,
        fun hdry => ?_, fun _ => World.of_navigateTo_ok hgo⟩
      rw [hlive] at hdry
      cases hdry

/-- Where going to an address fails, everything but the world is as the lookup left it. -/
theorem frames_navigate {url : String} {e : StepFault} {t : State}
    (hfails : x.perform (.navigate url) s = (.error e, t)) :
    x.resolver.Frames s t ∧ ∃ w, t = { (x.resolver.interpolate url s).2 with world := w } := by
  have hframes := Act.Within.ofRelation_iff.1 (x.resolver.permits_frame.within_interpolate url) s
  rw [perform_navigate] at hfails
  cases x.navigates url s with
  | @lost _ u hu hrun =>
      rw [hrun] at hfails
      cases hfails
      rw [hu] at hframes ⊢
      exact ⟨hframes, u.world, rfl⟩
  | @refused _ u _ w hlive hu hgo hrun =>
      rw [hrun] at hfails
      cases hfails
      rw [hu] at hframes ⊢
      exact ⟨hframes.of_world, w, rfl⟩
  | dry hdry hu hrun =>
      rw [hrun, resetPage_run] at hfails
      cases hfails
  | gone hlive hu hgo hrun =>
      rw [hrun, resetPage_run] at hfails
      cases hfails

/-- **A new page.**  Take any state of a session.  Where going to an address succeeds, the page
scope is empty and the scopes below it are what they were, nothing that was read is left to be
forgotten, and if anything is done on the page, the browser is at the address that was looked up
and in no frame.  Where it fails, no scope is emptied and no text is lost: everything but the world
is as the lookup of the address left it.  It succeeds exactly if the address is found and the
browser, if anything is done on the page, goes there.  Emptying the page scope alone does the same
to the bindings. -/
theorem navigate_refreshes_page (x : Session) (initial : ScopeStack) (w : World)
    (turns : List Turn) (url : String) {s : State} (hs : s = x.after turns (begin initial w)) :
    ∃ below name, PageNamed below name s.store ∧
      ((∃ a t, x.perform (.navigate url) s = (.ok a, t)) ↔
        ∃ address u, x.resolver.interpolate url s = (.ok address, u) ∧
          (x.settings.dryRun = false →
            ∃ w, World.browse (Browser.navigateTo address) u.world = (.ok (), w))) ∧
      (∀ a t, x.perform (.navigate url) s = (.ok a, t) → x.FreshPage below name t ∧
        ∃ address u, x.resolver.interpolate url s = (.ok address, u) ∧ t.readings = u.readings ∧
          (x.settings.dryRun = true → t.world = u.world) ∧
          (x.settings.dryRun = false →
            t.world.browser.url = address ∧ t.world.browser.frame = none)) ∧
      (∀ e t, x.perform (.navigate url) s = (.error e, t) → x.resolver.Frames s t ∧
        ∃ w, t = { (x.resolver.interpolate url s).2 with world := w }) ∧
      ∃ t, x.perform .resetPage s = (.ok .nothing, t) ∧ x.FreshPage below name t := by
  obtain ⟨outer, hbegin⟩ := exists_onPage_begin initial w
  -- the name is fixed before the lookup, which may bind anything else in the scope on top
  obtain ⟨name, hpage⟩ := (onPage_after (x := x) hbegin turns).named
  rw [← hs] at hpage
  exact ⟨_, name, hpage, navigate_done_iff, fun _ _ hdone => freshPage_navigate hpage hdone,
    fun _ _ hfails => frames_navigate hfails, _, rfl, freshPage_resetPage hpage⟩

/-- The page has a note on it, which has not been read yet. -/
def noteAhead : State :=
  standard.after [.perform (.bind "note/locator" "id"), .perform (.bind "note/locator/id" "n")]
    (begin .empty noteWorld)

/-- The note is read for the address and gone with the page; where the address is not found for
another name in it, the text of the note stays. -/
theorem note_gone_with_page :
    (∃ a t, standard.perform (.navigate "shop/$[note]") noteAhead = (.ok a, t) ∧
      standard.FreshPage .empty "page" t ∧ t.world.browser.url = "shop/draft" ∧
      t.world.browser.frame = none) ∧
    ∃ e t, standard.perform (.navigate "$[note]/$[box]") noteAhead = (.error e, t) ∧
      standard.resolver.Frames noteAhead t ∧ t.store.find? (Key.text "note") = some "draft" := by
  have hstore : noteAhead.store = ScopeStack.empty.under
      ⟨.page, "page", [("note/locator/id", "n"), ("note/locator", "id")]⟩ := by decide +kernel
  constructor
  · obtain ⟨below, name, ⟨entries, hnamed⟩, -, hdone, -, -⟩ := navigate_refreshes_page standard
      .empty noteWorld _ "shop/$[note]" (s := noteAhead) rfl
    obtain ⟨hpage, rfl⟩ := ScopeStack.under_inj (hstore.symm.trans hnamed)
    cases hpage
    have hok : (standard.perform (.navigate "shop/$[note]") noteAhead).1.toBool = true := by
      decide +kernel
    have haddress : (standard.resolver.interpolate "shop/$[note]" noteAhead).1.toOption =
        some "shop/draft" := by decide +kernel
    rcases hrun : standard.perform (.navigate "shop/$[note]") noteAhead with ⟨e | a, t⟩
    · rw [hrun] at hok
      cases hok
    · obtain ⟨hfresh, address, u, hu, -, -, hlive⟩ := hdone a t hrun
      rw [hu] at haddress
      cases haddress
      exact ⟨a, t, rfl, hfresh, hlive rfl⟩
  · obtain ⟨-, -, -, -, -, hfails, -⟩ := navigate_refreshes_page standard .empty noteWorld _
      "$[note]/$[box]" (s := noteAhead) rfl
    have herror : (standard.perform (.navigate "$[note]/$[box]") noteAhead).1.toBool = false := by
      decide +kernel
    have hread : (standard.resolver.interpolate "$[note]/$[box]" noteAhead).2.store.find?
        (Key.text "note") = some "draft" := by decide +kernel
    rcases hrun : standard.perform (.navigate "$[note]/$[box]") noteAhead with ⟨e | a, t⟩
    · obtain ⟨hframes, w, rfl⟩ := hfails e t hrun
      exact ⟨e, _, rfl, hframes, hread⟩
    · rw [hrun] at herror
      cases herror

end Session

end Bindery
