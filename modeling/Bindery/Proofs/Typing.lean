import Bindery.Proofs.Chains
import Bindery.Proofs.Rehearsal
import Bindery.Proofs.Strokes

/-!
# Bindery — Proofs — Typing

A text is typed once.  Clearing and typing are retried together, and a failure may strike between
the two; then the page has an emptied element, which the next try finds and empties again.  Once the
text was typed nothing of the deed can fail: pressing Enter goes to the same element by the same
operation, and an operation that just succeeded has no failure queued.  So the text is never typed
on top of itself (`text_typed_once`).
-/

namespace Bindery

open World (browse SparesPage)

/-! ### The value of an element -/

namespace PageElement

/-- The value of an element; one without a value has an empty one. -/
def value (e : PageElement) : String := (e.attributes.find? "value").getD ""

/-- An element with another value. -/
def withValue (v : String) (e : PageElement) : PageElement :=
  { e with attributes := e.attributes.put "value" v }

@[simp] theorem value_withValue (v : String) (e : PageElement) : (e.withValue v).value = v := by
  simp [value, withValue, Entries.find?_put_self]

@[simp] theorem withValue_withValue (v v' : String) (e : PageElement) :
    (e.withValue v).withValue v' = e.withValue v' := by
  simp [withValue, Entries.put_put]

theorem samePlace_withValue (v : String) (e : PageElement) : e.SamePlace (e.withValue v) :=
  ⟨rfl, rfl, rfl, rfl, rfl, rfl⟩

end PageElement

namespace Browser

/-- A page with another value in the element with an id. -/
def withValue (id : ElementId) (v : String) (page : List PageElement) : List PageElement :=
  changeElement id (·.withValue v) page

/-- The last value counts. -/
@[simp] theorem withValue_withValue (id : ElementId) (v v' : String) (page : List PageElement) :
    withValue id v' (withValue id v page) = withValue id v' page := by
  unfold withValue
  rw [changeElement_changeElement (g := (·.withValue v)) fun _ => rfl]
  simp

theorem find?_withValue {id : ElementId} {v : String} {page : List PageElement} {e : PageElement}
    (h : (page.find? fun d => d.id = id) = some e) :
    ((withValue id v page).find? fun d => d.id = id) = some (e.withValue v) :=
  find?_changeElement h rfl

theorem sendKeys_of_free {id : ElementId} {b : Browser} {e : PageElement}
    (hfree : ∀ fault, (.sendKeys, fault) ∉ b.failures) (hfind : b.element? id = some e)
    (hpresent : e.removed = false) (henabled : e.enabled = true) (keys : String) :
    ∃ b', sendKeys id keys b = (.ok (), b') := by
  refine onElement_of_free (d := e.type (typed keys)) hfree hfind hpresent ?_
  rw [PageElement.takeText, if_pos henabled]

theorem typed_enterKey : typed (String.singleton enterKey) = "" := by decide

end Browser

open Browser (withValue)

/-! ### Typing -/

namespace Interaction

open World (Since)

variable {w₀ : World} {page : List PageElement} {e : PageElement}

/-- What a failed attempt to type leaves: the page as it was, or with an emptied element. -/
def Untyped (page : List PageElement) (id : ElementId) (clearFirst : Bool) : Account :=
  fun p _ => p = page ∨ clearFirst = true ∧ p = withValue id "" page

/-- The page once the element is ready to be typed into. -/
def ready (page : List PageElement) (id : ElementId) (clearFirst : Bool) : List PageElement :=
  if clearFirst then withValue id "" page else page

/-- The page after a text was typed. -/
def complete (page : List PageElement) (e : PageElement) (text : String) (clearFirst : Bool) :
    List PageElement :=
  withValue e.id ((if clearFirst then "" else e.value) ++ Browser.typed text) page

theorem untyped_ready (page : List PageElement) (id : ElementId) (clearFirst : Bool)
    (made : List Stroke) : Untyped page id clearFirst (ready page id clearFirst) made := by
  cases clearFirst with
  | false => exact .inl rfl
  | true => exact .inr ⟨rfl, rfl⟩

/-- Clearing first makes the element ready, also where an earlier attempt has cleared it. -/
theorem since_clearing (clearFirst : Bool) :
    (if clearFirst then browse (Browser.clear e.id) else pure ()).Triple
      (Since w₀ (Untyped page e.id clearFirst))
      (fun _ => Since w₀ fun p _ => p = ready page e.id clearFirst)
      (Since w₀ (Untyped page e.id clearFirst)) := by
  cases clearFirst with
  | false =>
      refine .pure fun w hw => hw.mono fun hpage => ?_
      rcases hpage with rfl | ⟨hclear, -⟩
      · rfl
      · cases hclear
  | true =>
      refine Since.triple_onElement PageElement.careful_clear rfl (fun hpage hfind _ hf => ?_)
        fun _ hpage => hpage
      cases hf
      -- the element is cleared, or cleared once more
      refine (Browser.changeElement_const (·.withValue "") hfind).trans ?_
      rcases hpage with rfl | ⟨-, rfl⟩
      · rfl
      · exact Browser.withValue_withValue _ _ _ _

/-- Keys that are typed go into an enabled element, after the value it has. -/
theorem since_sendKeys {id : ElementId} {d : PageElement}
    (hfind : (page.find? fun e => e.id = id) = some d) (keys : String) :
    (browse (Browser.sendKeys id keys)).Triple (Since w₀ fun p _ => p = page)
      (fun _ => Since w₀ fun p _ =>
        p = withValue id (d.value ++ Browser.typed keys) page ∧ d.enabled = true)
      (Since w₀ fun p _ => p = page) := by
  refine Since.triple_onElement (PageElement.careful_takeText _) rfl (fun hpage hd _ hf => ?_)
    fun _ hpage => hpage
  subst hpage
  rw [hfind] at hd
  cases hd
  obtain ⟨henabled, rfl⟩ := PageElement.of_takeText_ok hf
  exact ⟨Browser.changeElement_const (·.withValue _) hfind, henabled⟩

/-- Pressing Enter cannot fail where typing just succeeded, and it leaves the value as it is. -/
theorem since_enter {id : ElementId} {d : PageElement}
    (hfind : (page.find? fun e => e.id = id) = some d) (hpresent : d.removed = false)
    (henabled : d.enabled = true) :
    (browse (Browser.sendKeys id (String.singleton Browser.enterKey))).Triple
      (fun w => (Since w₀ fun p _ => p = page) w ∧ ∀ fault, (.sendKeys, fault) ∉ w.browser.failures)
      (fun _ => Since w₀ fun p _ => p = withValue id d.value page) (fun _ => False) where
  ok := by
    intro w w' x hw hrun
    refine ((since_sendKeys hfind _).ok hw.1 hrun).mono fun hpage => ?_
    rw [Browser.typed_enterKey, String.append_empty] at hpage
    exact hpage.1
  error := by
    intro w w' f hw hrun
    obtain ⟨hsince, hfree⟩ := hw
    obtain ⟨made, -, rfl⟩ := hsince.page
    obtain ⟨fault, hfailed⟩ := World.run_of_browse_error hrun
    -- no failure is queued for keys, and the element takes them
    obtain ⟨b, hdone⟩ := Browser.sendKeys_of_free hfree hfind hpresent henabled
      (String.singleton Browser.enterKey)
    rw [hdone] at hfailed
    cases hfailed

theorem typeText_eq (text : String) (clearFirst sendEnter : Bool) (id : ElementId) :
    typeText text clearFirst sendEnter id = (do
      (if clearFirst then browse (Browser.clear id) else pure ())
      browse (Browser.sendKeys id text)
      if sendEnter then browse (Browser.sendKeys id (String.singleton Browser.enterKey))
        else pure ()) := by
  unfold typeText
  cases clearFirst <;> cases sendEnter <;> rfl

/-- Typing that succeeds makes the page complete, and typing that fails leaves it untyped. -/
theorem since_typeText (hfind : (page.find? fun d => d.id = e.id) = some e)
    (hpresent : e.removed = false) (text : String) (clearFirst sendEnter : Bool) :
    (typeText text clearFirst sendEnter e.id).Triple (Since w₀ (Untyped page e.id clearFirst))
      (fun _ => Since w₀ fun p _ => p = complete page e text clearFirst)
      (Since w₀ (Untyped page e.id clearFirst)) := by
  -- the element when it is ready, and when the page is complete
  obtain ⟨d, hready, hvalue, henabled, hremoved⟩ : ∃ d,
      ((ready page e.id clearFirst).find? fun d => d.id = e.id) = some d ∧
      d.value = (if clearFirst then "" else e.value) ∧ d.enabled = e.enabled ∧
      d.removed = false := by
    cases clearFirst with
    | false => exact ⟨e, hfind, rfl, rfl, hpresent⟩
    | true => exact ⟨_, Browser.find?_withValue hfind, by simp, rfl, hpresent⟩
  have hcomplete : withValue e.id (d.value ++ Browser.typed text) (ready page e.id clearFirst) =
      complete page e text clearFirst := by
    rw [hvalue]
    cases clearFirst <;> simp [ready, complete]
  have hfound : ((complete page e text clearFirst).find? fun d => d.id = e.id) =
      some (d.withValue (d.value ++ Browser.typed text)) :=
    hcomplete ▸ Browser.find?_withValue hready
  have hkeys : (browse (Browser.sendKeys e.id text)).Triple
      (Since w₀ fun p _ => p = ready page e.id clearFirst)
      (fun _ w => d.enabled = true ∧ (Since w₀ fun p _ => p = complete page e text clearFirst) w ∧
        ∀ fault, (.sendKeys, fault) ∉ w.browser.failures)
      (Since w₀ (Untyped page e.id clearFirst)) := by
    refine ⟨fun hw hrun => ?_, fun hw hrun => ?_⟩
    · have hdone := (since_sendKeys hready text).ok hw hrun
      obtain ⟨made, -, -, hon⟩ := hdone.page
      exact ⟨hon, hdone.mono fun hpage => hpage.1.trans hcomplete,
        (Browser.Call.onElement _ _ _).free _ _ _ (World.run_of_browse_ok hrun)⟩
    · refine ((since_sendKeys hready text).error hw hrun).mono fun hpage => ?_
      subst hpage
      exact untyped_ready page e.id clearFirst _
  rw [typeText_eq]
  refine .bind (since_clearing clearFirst) fun _ => .bind hkeys fun _ => ?_
  cases sendEnter with
  | false => exact .pure fun w hw => hw.2.1
  | true =>
      refine ⟨fun hw hrun => ?_, fun hw hrun => ?_⟩
      · refine ((since_enter hfound hremoved hw.1).ok hw.2 hrun).mono fun hpage => hpage.trans ?_
        rw [← hcomplete, PageElement.value_withValue, Browser.withValue_withValue]
      · exact ((since_enter hfound hremoved hw.1).error hw.2 hrun).elim

/-- However far an attempt got, the element is still the one that its locator leads to. -/
theorem leadsTo_of_untyped (clearFirst : Bool) {l : Locator} {p : List PageElement}
    {made : List Stroke} (hids : (page.map (·.id)).Nodup) (he : LeadsTo page l e)
    (hp : Untyped page e.id clearFirst p made) :
    (p.map (·.id)).Nodup ∧ ∀ d, LeadsTo p l d → d.id = e.id := by
  rcases hp with rfl | ⟨-, rfl⟩
  · exact ⟨hids, fun d hd => congrArg _ (hd.unique he)⟩
  · have hplace := PageElement.samePlace_withValue ""
    obtain ⟨d', hd', hid⟩ := Browser.leadsTo_changeElement hids hplace he
    exact ⟨Browser.nodup_changeElement hids hplace, fun d hd => hd.unique hd' ▸ hid⟩

end Interaction

namespace Session

open Interaction

/-- **A text is typed once.**  In a live session an element is found, in whatever state the page is
and whichever failures are queued.  Typing into it ends in one of three ways.  It is done, well or
with a failure in the time after it: then the value of the element is the text without Enter after
what the value was, or after nothing where it is cleared first, and from there the page changes by
itself only.  Or it fails because the window could not be made current again at the very end: then
the value is the same.  Or the interaction fails otherwise: then the page is as it was, or the
element is emptied where it is cleared first.  All other elements stay as they are. -/
theorem text_typed_once (x : Session) (hlive : x.settings.dryRun = false) {element text : String}
    {clearFirst sendEnter : Bool} {s t u : State} {l : Locator} {e : PageElement}
    {r : Except StepFault Answer} (hl : x.resolver.locator element s = (.ok l, t))
    (hpage : t.world.browser.Reached) (he : LeadsTo t.world.browser.elements l e)
    (hrun : x.perform (.sendKeys element text clearFirst sendEnter) s = (r, u)) :
    (x.resolver.evaluators.SparePage → SparesPage s.world t.world) ∧
      ((EndsBound r ∧ ∃ changes, t.world.coming = changes ++ u.world.coming ∧
          u.world.browser.elements = Browser.elementsAfter (changes.map Prod.snd)
            (complete t.world.browser.elements e text clearFirst)) ∨
        ∃ f, r = .error (.interaction f) ∧
          (LostReturn l (typeText text clearFirst sendEnter) t.world f ∧
              u.world.browser.elements = complete t.world.browser.elements e text clearFirst ∨
            ¬ LostReturn l (typeText text clearFirst sendEnter) t.world f ∧
              (u.world.browser.elements = t.world.browser.elements ∨ clearFirst = true ∧
                u.world.browser.elements = withValue e.id "" t.world.browser.elements))) := by
  refine ⟨fun hspare => Resolver.sparesPage_of_locator hspare hl, ?_⟩
  have hids := hpage.numbered.nodup
  have hfind := (Browser.find?_id_of_nodup hids he.mem.1).1
  have hop : (Operation.sendKeys element text clearFirst sendEnter).deed? =
      some ⟨element, "type", text, typeText text clearFirst sendEnter⟩ := rfl
  have hends := since_of_deed hlive hop hl (.inl rfl)
    (since_once (fun hp => leadsTo_of_untyped clearFirst hids he hp)
      (since_typeText hfind he.mem.2 text clearFirst sendEnter))
  rw [hrun] at hends
  rcases hends with ⟨hbound, changes, w, hdone, hpasses⟩ | ⟨f, hf, hlost | hfailed⟩
  · obtain ⟨made, -, hcomplete⟩ := hdone.page
    refine .inl ⟨hbound, changes, ?_, ?_⟩
    · rw [← hdone.coming, hpasses.coming]
    · rw [hpasses.elements, hcomplete]
  · obtain ⟨made, -, hcomplete⟩ := hlost.2.page
    exact .inr ⟨f, hf, .inl ⟨hlost.1, hcomplete⟩⟩
  · obtain ⟨made, -, huntyped⟩ := hfailed.2.page
    exact .inr ⟨f, hf, .inr ⟨hfailed.1, huntyped⟩⟩

/-- A draft in a field of a form, where the first keys that are typed are lost. -/
def draftState : State :=
  let changes : List PageChange := [.addElement .id "form" "form" none,
    .addElement .id "field" "input" (some "el-1"), .setAttribute "el-2" "value" "draft",
    .failNext .sendKeys (.stale "el-2")]
  begin ⟨[⟨.page, pageName, [("field/locator", "id"), ("field/locator/id", "field"),
      ("field/locator/id/container", "form"), ("form/locator", "id"),
      ("form/locator/id", "form")]⟩], []⟩
    { World.fresh .bare [] with browser := changes.foldl Browser.apply .opened }

/-- The locator of a field in a form. -/
def fieldInForm : Locator := (Locator.plain "field" .id "field").within (.plain "form" .id "form")

theorem locator_field : standard.resolver.locator "field" draftState =
    (.ok fieldInForm, draftState) := by
  have hfield : Resolver.Spelled draftState.store ("field", .id, "field") "id" :=
    ⟨by decide +kernel, by decide +kernel, by decide +kernel, by decide +kernel⟩
  have hform : Resolver.Spelled draftState.store ("form", .id, "form") "id" :=
    ⟨by decide +kernel, by decide +kernel, by decide +kernel, by decide +kernel⟩
  have hinside : draftState.store.findWord? (Key.container "field" "id") = some "form" := by
    decide +kernel
  obtain ⟨room, hroom⟩ : ∃ room, standard.resolver.maxDepth = room + 1 := ⟨15, rfl⟩
  have haround := hform.locatorAt_alone (r := standard.resolver) (by decide +kernel) room
  have hrun := hfield.locatorAt_inside (r := standard.resolver) rfl hinside (room + 1)
  dsimp only at haround hrun
  rw [Resolver.locator, hroom, hrun, Act.bind_run_ok haround]
  rfl

/-- The field is cleared and typed into twice, and has the text once. -/
theorem hello_typed_once :
    standard.settings.dryRun = false ∧ draftState.world.browser.Reached ∧
      standard.resolver.locator "field" draftState = (.ok fieldInForm, draftState) ∧
      ∃ e, LeadsTo draftState.world.browser.elements fieldInForm e ∧ e.id = "el-2" ∧
        EndsBound (standard.perform (.sendKeys "field" "hello" true true) draftState).1 ∧
        (standard.perform (.sendKeys "field" "hello" true true)
            draftState).2.world.browser.elements =
          withValue "el-2" "hello" draftState.world.browser.elements := by
  have hpage : draftState.world.browser.Reached := Browser.Reached.opened.changes _
  have hlocate : (locate fieldInForm draftState.world).1 = .ok "el-2" := by decide +kernel
  obtain ⟨e, he, hid⟩ := leadsTo_of_locate hpage.numbered.nodup (Prod.ext hlocate rfl)
  have hbound : EndsBound
      (standard.perform (.sendKeys "field" "hello" true true) draftState).1 := by decide +kernel
  refine ⟨rfl, hpage, locator_field, e, he, hid, hbound, ?_⟩
  rcases hrun : standard.perform (.sendKeys "field" "hello" true true) draftState with ⟨r, u⟩
  rw [hrun] at hbound
  obtain ⟨-, ⟨-, changes, hcoming, helements⟩ | ⟨f, rfl, -⟩⟩ :=
    text_typed_once standard rfl locator_field hpage he hrun
  · -- nothing was to come, so nothing came
    have hnothing : draftState.world.coming = [] := by simp [draftState, begin, World.fresh]
    rw [hnothing, List.nil_eq_append_iff] at hcoming
    obtain ⟨rfl, -⟩ := hcoming
    rw [helements, complete, hid]
    rfl
  · exact hbound.elim

end Session

end Bindery
