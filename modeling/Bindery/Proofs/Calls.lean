import Bindery.Proofs.Bounds
import Bindery.World

/-!
# Bindery — Proofs — Calls

What an operation of the browser does beside what it is for: it writes its name into the log once,
it takes a failure that is queued for it and adds none, and only three operations change the active
frame (`Browser.Call`).

In the world every such call stands in the log with what it failed with, so what an action calls
can be bounded (`World.calling`).
-/

namespace Bindery

/-- Whether an operation changes the active frame. -/
def BrowserOp.changesFrame : BrowserOp → Bool
  | switchToWindow | switchToFrame | navigateTo => true
  | _ => false

namespace Browser

variable {α : Type} {op : BrowserOp} {queue rest : List (BrowserOp × BrowserFault)}
  {fault : BrowserFault}

/-! ### Queued failures -/

theorem not_mem_of_takeFailure_none (h : takeFailure op queue = none) : (op, fault) ∉ queue := by
  induction queue with
  | nil => exact List.not_mem_nil
  | cons p queue ih =>
      obtain ⟨o, g⟩ := p
      by_cases ho : o = op
      · simp [takeFailure, ho] at h
      · simp only [takeFailure, ho, if_false, Option.map_eq_none_iff] at h
        rintro (_ | ⟨_, hmem⟩)
        · exact ho rfl
        · exact ih h hmem

theorem mem_of_takeFailure (h : takeFailure op queue = some (fault, rest)) :
    (op, fault) ∈ queue ∧ rest ⊆ queue := by
  induction queue generalizing rest with
  | nil => cases h
  | cons p queue ih =>
      obtain ⟨o, g⟩ := p
      by_cases ho : o = op
      · simp only [takeFailure, ho, if_true, Option.some.injEq, Prod.mk.injEq] at h
        obtain ⟨rfl, rfl⟩ := h
        exact ⟨ho ▸ List.mem_cons_self, List.subset_cons_self _ _⟩
      · simp only [takeFailure, ho, if_false, Option.map_eq_some_iff] at h
        obtain ⟨⟨f, left⟩, htake, heq⟩ := h
        cases heq
        exact ⟨.tail _ (ih htake).1, List.cons_subset_cons _ (ih htake).2⟩

/-! ### One operation -/

/-- An action that is one operation of the browser. -/
structure Call (op : BrowserOp) (a : Act α) : Prop where
  /-- Its name is written into the log once. -/
  logged : ∀ b, (a b).2.calls = op :: b.calls
  /-- No failure is queued by it. -/
  queue : ∀ b, (a b).2.failures ⊆ b.failures
  /-- Where it succeeds no failure is queued for it. -/
  free : ∀ b x b', a b = (.ok x, b') → ∀ f, (op, f) ∉ b'.failures
  /-- The active frame stays what it is, unless it is for changing it. -/
  frame : op.changesFrame = false → ∀ b, (a b).2.frame = b.frame

theorem enter_run (op : BrowserOp) (b : Browser) :
    enter op b = match takeFailure op b.failures with
      | some (f, left) => (.error f, { b with calls := op :: b.calls, failures := left })
      | none => (.ok (), { b with calls := op :: b.calls }) := rfl

/-- What comes after an operation was begun leaves the log and the queue alone. -/
theorem Call.of_enter {a : Act α} (hlog : ∀ b, (a b).2.calls = b.calls)
    (hqueue : ∀ b, (a b).2.failures = b.failures)
    (hframe : op.changesFrame = false → ∀ b, (a b).2.frame = b.frame) :
    Call op (enter op >>= fun _ => a) where
  logged := by
    intro b
    rw [Act.bind_run, enter_run]
    rcases takeFailure op b.failures with _ | ⟨f, left⟩
    · exact hlog _
    · rfl
  queue := by
    intro b
    rw [Act.bind_run, enter_run]
    rcases e : takeFailure op b.failures with _ | ⟨f, left⟩
    · exact fun p hp => by rwa [hqueue] at hp
    · exact (mem_of_takeFailure e).2
  free := by
    intro b x b' h f
    rw [Act.bind_run, enter_run] at h
    rcases e : takeFailure op b.failures with _ | ⟨g, left⟩
    · rw [e] at h
      have hb' : b'.failures = b.failures := by
        rw [show b' = _ from (congrArg Prod.snd h).symm]
        exact hqueue _
      rw [hb']
      exact not_mem_of_takeFailure_none e
    · rw [e] at h; cases h
  frame := by
    intro hop b
    rw [Act.bind_run, enter_run]
    rcases takeFailure op b.failures with _ | ⟨f, left⟩
    · exact hframe hop _
    · rfl

theorem Call.onElement (op : BrowserOp) (id : ElementId)
    (f : PageElement.Act α) : Call op (onElement op id f) := by
  unfold Browser.onElement
  refine .of_enter (fun b => ?_) (fun b => ?_) fun _ b => ?_
  -- an element that is changed leaves the log, the queue and the frame alone
  all_goals
    rw [Act.bind_run_ok (Act.get_run b)]
    cases (b.element? id).filter fun e => !e.removed with
    | none => rfl
    | some e => rfl

theorem Call.readElement (op : BrowserOp) (id : ElementId) (f : PageElement → α) :
    Call op (readElement op id f) := .onElement op id _

theorem Call.findElement (strategy : Strategy) (expression : String) (within : Option ElementId) :
    Call .findElement (findElement strategy expression within) := by
  unfold Browser.findElement
  refine .of_enter (fun b => ?_) (fun b => ?_) fun _ b => ?_
  all_goals
    rw [Act.bind_run_ok (Act.get_run b)]
    cases b.elements.find? fun e => e.isFoundBy strategy expression within with
    | none => rfl
    | some e => rfl

theorem Call.currentWindow : Call .currentWindow currentWindow :=
  .of_enter (fun _ => rfl) (fun _ => rfl) fun _ _ => rfl

theorem Call.switchToWindow (window : String) : Call .switchToWindow (switchToWindow window) :=
  .of_enter (fun _ => rfl) (fun _ => rfl) fun h => nomatch h

theorem Call.switchToFrame (frame : ElementId) : Call .switchToFrame (switchToFrame frame) :=
  .of_enter (fun _ => rfl) (fun _ => rfl) fun h => nomatch h

theorem Call.executeScript (script : String) (args : List ScriptArgument) :
    Call .executeScript (executeScript script args) :=
  .of_enter (fun _ => rfl) (fun _ => rfl) fun _ _ => rfl

theorem Call.currentUrl : Call .currentUrl currentUrl :=
  .of_enter (fun _ => rfl) (fun _ => rfl) fun _ _ => rfl

theorem Call.navigateTo (url : String) : Call .navigateTo (navigateTo url) :=
  .of_enter (fun _ => rfl) (fun _ => rfl) fun h => nomatch h

end Browser

namespace World

variable {α : Type} {op : BrowserOp} {a : Browser.Act α} {w w' : World}

/-! ### Operations in the world -/

/-- What a call of the browser ends in, and the log after it. -/
theorem browse_cases (ha : Browser.Call op a) (w : World) :
    (∃ x, (browse a w).1 = .ok x ∧ (browse a w).2.calls = (op, none) :: w.calls) ∨
      ∃ f, (browse a w).1 = .error (.browser f) ∧
        (browse a w).2.calls = (op, some f) :: w.calls := by
  have hlog := ha.logged w.browser
  rcases e : a w.browser with ⟨f | x, b⟩
  · rw [e] at hlog
    simp only at hlog
    refine .inr ⟨f, ?_, ?_⟩
    · simp only [browse, e]
    · simp only [browse, e, calls, hlog, List.zip_cons_cons]
  · rw [e] at hlog
    simp only at hlog
    refine .inl ⟨x, ?_, ?_⟩
    · simp only [browse, e]
    · simp only [browse, e, calls, hlog, List.zip_cons_cons]

theorem calls_of_ok {x : α} (ha : Browser.Call op a) (h : browse a w = (.ok x, w')) :
    w'.calls = (op, none) :: w.calls := by
  rcases browse_cases ha w with ⟨_, -, hcalls⟩ | ⟨_, hf, -⟩
  · rwa [h] at hcalls
  · rw [h] at hf; cases hf

theorem calls_of_error {f : InteractionFault} (ha : Browser.Call op a)
    (h : browse a w = (.error f, w')) : ∃ f, w'.calls = (op, some f) :: w.calls := by
  rcases browse_cases ha w with ⟨_, hx, -⟩ | ⟨f, -, hcalls⟩
  · rw [h] at hx; cases hx
  · rw [h] at hcalls
    exact ⟨f, hcalls⟩

/-- A call writes one line into the log. -/
theorem calls_of_browse {r : Except InteractionFault α} (ha : Browser.Call op a)
    (h : browse a w = (r, w')) : ∃ fault, w'.calls = (op, fault) :: w.calls := by
  cases r with
  | error f => exact (calls_of_error ha h).imp' some fun _ h => h
  | ok x => exact ⟨none, calls_of_ok ha h⟩

/-- A call of the browser changes nothing else in the world but the log of calls. -/
theorem browse_browser (a : Browser.Act α) (w : World) :
    (browse a w).2.browser = (a w.browser).2 := by
  rcases e : a w.browser with ⟨f | x, b⟩ <;> simp only [browse, e]

theorem browse_coming (a : Browser.Act α) (w : World) :
    (browse a w).2.coming = w.coming := by
  rcases e : a w.browser with ⟨f | x, b⟩ <;> simp only [browse, e]

/-- The bounds of actions that call only some operations of the browser. -/
def calling (ops : List BrowserOp) : Bounds World :=
  .ofRelation (fun w w' => ∃ made, w'.calls = made ++ w.calls ∧ ∀ c ∈ made, c.1 ∈ ops)
    (fun _ => ⟨[], rfl, by simp⟩) (by
      rintro w w₁ w₂ ⟨made₁, h₁, hops₁⟩ ⟨made₂, h₂, hops₂⟩
      refine ⟨made₂ ++ made₁, by rw [h₂, h₁, List.append_assoc], fun c hc => ?_⟩
      rcases List.mem_append.1 hc with hc | hc
      · exact hops₂ c hc
      · exact hops₁ c hc)

theorem calling_mono {ε : Type} {ops more : List BrowserOp} {a : Act ε α} (hsub : ops ⊆ more)
    (ha : a.Within (calling ops)) : a.Within (calling more) := by
  refine Act.Within.ofRelation_iff.2 fun w => ?_
  obtain ⟨made, hmade, hops⟩ := Act.Within.ofRelation_iff.1 ha w
  exact ⟨made, hmade, fun c hc => hsub (hops c hc)⟩

theorem calling_browse {ops : List BrowserOp} (ha : Browser.Call op a) (hop : op ∈ ops) :
    Act.Within (calling ops) (browse a) := by
  refine Act.Within.ofRelation_iff.2 fun w => ?_
  rcases browse_cases ha w with ⟨_, -, hcalls⟩ | ⟨_, -, hcalls⟩
  · exact ⟨[_], hcalls, by simpa using hop⟩
  · exact ⟨[_], hcalls, by simpa using hop⟩

end World

end Bindery
