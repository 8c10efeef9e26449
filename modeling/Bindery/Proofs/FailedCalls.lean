import Bindery.Proofs.Requests

/-!
# Bindery — Proofs — Failed calls

What a call of a browser leaves (`Browser.Called`).  Its name is written into the log once.  The
oldest failure that is queued for it is taken from the queue, and it fails with that one; the
failures that are queued for other operations stay as they are, in their order.  A call that fails,
for whatever reason, changes nothing beside the log and the queue.

So the calls of an operation meet the failures that are queued for it one by one, whatever is called
between them (`Request.queued_after`).
-/

namespace Bindery

/-- The operation that a request is for. -/
def Request.op : Request → BrowserOp
  | .findElement .. => .findElement
  | .currentWindow => .currentWindow
  | .switchToWindow _ => .switchToWindow
  | .switchToFrame _ => .switchToFrame
  | .tagName _ => .tagName
  | .text _ => .text
  | .attributeOf .. => .attributeOf
  | .sendKeys .. => .sendKeys
  | .clear _ => .clear
  | .click _ => .click
  | .submit _ => .submit
  | .isSelected _ => .isSelected
  | .isDisplayed _ => .isDisplayed
  | .isEnabled _ => .isEnabled
  | .selectOption .. => .selectOption
  | .selectedOption .. => .selectedOption
  | .executeScript .. => .executeScript
  | .currentUrl => .currentUrl
  | .navigateTo _ => .navigateTo

namespace Browser

variable {α : Type} {op other : BrowserOp} {fault : BrowserFault} {b : Browser}

/-! ### The queue of an operation -/

/-- The failures in a queue that are for an operation, the oldest first. -/
def faultsOf (op : BrowserOp) (queue : List (BrowserOp × BrowserFault)) : List BrowserFault :=
  (queue.filter fun p => p.1 = op).map Prod.snd

/-- The failures that are queued for an operation, the oldest first. -/
def queued (b : Browser) (op : BrowserOp) : List BrowserFault := faultsOf op b.failures

section Queue

variable {queue rest : List (BrowserOp × BrowserFault)}

theorem faultsOf_cons_self (fault : BrowserFault) :
    faultsOf op ((op, fault) :: queue) = fault :: faultsOf op queue := by
  simp [faultsOf]

theorem faultsOf_cons_other (h : other ≠ op) (fault : BrowserFault) :
    faultsOf op ((other, fault) :: queue) = faultsOf op queue := by
  simp [faultsOf, h]

theorem faultsOf_of_takeFailure_none (h : takeFailure op queue = none) :
    faultsOf op queue = [] := by
  unfold faultsOf
  rw [List.map_eq_nil_iff, List.filter_eq_nil_iff]
  rintro ⟨o, f⟩ hmem ho
  obtain rfl : o = op := by simpa using ho
  exact not_mem_of_takeFailure_none h hmem

/-- The oldest failure of an operation is taken. -/
theorem faultsOf_of_takeFailure (h : takeFailure op queue = some (fault, rest)) :
    faultsOf op queue = fault :: faultsOf op rest := by
  induction queue generalizing rest with
  | nil => cases h
  | cons p queue ih =>
      obtain ⟨o, g⟩ := p
      by_cases ho : o = op
      · subst ho
        simp only [takeFailure, if_true, Option.some.injEq, Prod.mk.injEq] at h
        obtain ⟨rfl, rfl⟩ := h
        exact faultsOf_cons_self g
      · simp only [takeFailure, ho, if_false, Option.map_eq_some_iff] at h
        obtain ⟨⟨f, left⟩, htake, heq⟩ := h
        cases heq
        rw [faultsOf_cons_other ho, faultsOf_cons_other ho, ih htake]

/-- The failures of the other operations stay in the queue. -/
theorem faultsOf_other_of_takeFailure (h : takeFailure op queue = some (fault, rest))
    (hother : other ≠ op) : faultsOf other rest = faultsOf other queue := by
  induction queue generalizing rest with
  | nil => cases h
  | cons p queue ih =>
      obtain ⟨o, g⟩ := p
      by_cases ho : o = op
      · subst ho
        simp only [takeFailure, if_true, Option.some.injEq, Prod.mk.injEq] at h
        obtain ⟨-, rfl⟩ := h
        rw [faultsOf_cons_other (Ne.symm hother)]
      · simp only [takeFailure, ho, if_false, Option.map_eq_some_iff] at h
        obtain ⟨⟨f, left⟩, htake, heq⟩ := h
        cases heq
        by_cases hop : o = other
        · subst hop
          rw [faultsOf_cons_self, faultsOf_cons_self, ih htake]
        · rw [faultsOf_cons_other hop, faultsOf_cons_other hop, ih htake]

end Queue

/-! ### What a call leaves -/

/-- A call of an operation that ends in `b'`, failing with `failure` if it fails. -/
structure Called (op : BrowserOp) (b : Browser) (failure : Option BrowserFault) (b' : Browser) :
    Prop where
  /-- Its name is written into the log once. -/
  logged : b'.calls = op :: b.calls
  /-- The oldest failure that is queued for it is taken, if there is one. -/
  spent : b'.queued op = (b.queued op).tail
  /-- It fails with the failure that is taken. -/
  failed : ∀ f ∈ (b.queued op).head?, failure = some f
  /-- The failures of other operations stay in the queue. -/
  others : ∀ other, other ≠ op → b'.queued other = b.queued other
  /-- A call that fails changes nothing else. -/
  inert : failure ≠ none → b' = { b with calls := b'.calls, failures := b'.failures }

/-- A call for which a failure is queued. -/
theorem called_of_refused {left : List (BrowserOp × BrowserFault)}
    (h : takeFailure op b.failures = some (fault, left)) :
    Called op b (some fault) { b with calls := op :: b.calls, failures := left } := by
  have hqueued : b.queued op = fault :: faultsOf op left := faultsOf_of_takeFailure h
  refine ⟨rfl, ?_, ?_, fun other hother => faultsOf_other_of_takeFailure h hother, fun _ => rfl⟩
  · rw [hqueued]
    rfl
  · rw [hqueued]
    rintro g ⟨⟩
    rfl

/-- A call for which no failure is queued. -/
theorem called_of_begun {failure : Option BrowserFault} {b' : Browser}
    (h : takeFailure op b.failures = none) (hcalls : b'.calls = op :: b.calls)
    (hqueue : b'.failures = b.failures)
    (hinert : failure ≠ none → b' = { b with calls := op :: b.calls }) :
    Called op b failure b' := by
  have hqueued : b.queued op = [] := faultsOf_of_takeFailure_none h
  have hsame (other : BrowserOp) : b'.queued other = b.queued other := by
    rw [queued, hqueue, queued]
  refine ⟨hcalls, ?_, ?_, fun other _ => hsame other, fun hfailed => ?_⟩
  · rw [hsame, hqueued]
    rfl
  · rw [hqueued]
    rintro g ⟨⟩
  · rw [hcalls, hqueue]
    exact hinert hfailed

/-- How an operation may end that was begun: it leaves the log and the queue alone, and where it
fails it changes nothing. -/
inductive Begun (b : Browser) : Except BrowserFault α × Browser → Prop where
  | failed (fault : BrowserFault) : Begun b (.error fault, b)
  | done {x : α} {b' : Browser} (hcalls : b'.calls = b.calls) (hqueue : b'.failures = b.failures) :
      Begun b (.ok x, b')

theorem called_of_enter {a : Act α} (ha : ∀ b, Begun b (a b)) (b : Browser) :
    Called op b (ending (enter op >>= fun _ => a) b).1 (ending (enter op >>= fun _ => a) b).2 := by
  rw [ending]
  rcases htake : takeFailure op b.failures with _ | ⟨f, left⟩
  · have hbegun : enter op b = (.ok (), { b with calls := op :: b.calls }) := by
      rw [enter_run, htake]
    have hend := ha { b with calls := op :: b.calls }
    rw [Act.bind_run_ok hbegun]
    generalize a { b with calls := op :: b.calls } = out at hend
    cases hend with
    | failed fault => exact called_of_begun htake rfl rfl fun _ => rfl
    | done hcalls hqueue => exact called_of_begun htake hcalls hqueue fun h => absurd rfl h
  · have hrefused : enter op b =
        (.error f, { b with calls := op :: b.calls, failures := left }) := by
      rw [enter_run, htake]
    rw [Act.bind_run_error hrefused]
    exact called_of_refused htake

/-- What is done to an element checks before it changes anything, so a call that fails has changed
nothing. -/
theorem called_onElement (op : BrowserOp) (id : ElementId) {f : PageElement.Act α}
    (hf : PageElement.Careful f) (b : Browser) :
    Called op b (ending (onElement op id f) b).1 (ending (onElement op id f) b).2 := by
  unfold onElement
  refine called_of_enter (fun b => ?_) b
  rw [Act.bind_run_ok (Act.get_run b)]
  cases hfind : (b.element? id).filter fun e => !e.removed with
  | none => exact .failed _
  | some e =>
      show Begun b ((f e).1, { b with elements := changeElement id (fun _ => (f e).2) b.elements })
      rcases he : f e with ⟨fault | x, e'⟩
      · rw [hf he, changeElement_self (Option.eq_some_of_filter_eq_some hfind)]
        exact .failed fault
      · exact .done rfl rfl

theorem called_readElement (op : BrowserOp) (id : ElementId) (f : PageElement → α) (b : Browser) :
    Called op b (ending (readElement op id f) b).1 (ending (readElement op id f) b).2 :=
  called_onElement op id (PageElement.careful_read f) b

theorem called_findElement (strategy : Strategy) (expression : String)
    (within : Option ElementId) (b : Browser) :
    Called .findElement b (ending (findElement strategy expression within) b).1
      (ending (findElement strategy expression within) b).2 := by
  unfold findElement
  refine called_of_enter (fun b => ?_) b
  rw [Act.bind_run_ok (Act.get_run b)]
  cases b.elements.find? fun e => e.isFoundBy strategy expression within with
  | none => exact .failed _
  | some e => exact .done rfl rfl

end Browser

namespace Request

open Browser (ending Called)

/-- Every request is a call of its operation. -/
theorem called_run (r : Request) (b : Browser) : Called r.op b (r.run b).1 (r.run b).2 := by
  cases r with
  | findElement => exact Browser.called_findElement _ _ _ b
  | currentWindow | switchToWindow | switchToFrame | executeScript | currentUrl | navigateTo =>
      refine Browser.called_of_enter (fun b => ?_) b
      exact .done rfl rfl
  | sendKeys => exact Browser.called_onElement _ _ (PageElement.careful_takeText _) b
  | clear => exact Browser.called_onElement _ _ PageElement.careful_clear b
  | click => exact Browser.called_onElement _ _ PageElement.careful_click b
  | selectOption => exact Browser.called_onElement _ _ (PageElement.careful_select _) b
  | _ => exact Browser.called_readElement _ _ _ b

/-! ### Calls one after another -/

/-- A browser after requests, whatever they end in. -/
abbrev after (requests : List Request) (b : Browser) : Browser :=
  b.afterEvents (requests.map .request)

theorem after_cons (r : Request) (requests : List Request) (b : Browser) :
    after (r :: requests) b = after requests (r.run b).2 := rfl

theorem calls_after (requests : List Request) (b : Browser) :
    (after requests b).calls = (requests.map op).reverse ++ b.calls := by
  induction requests generalizing b with
  | nil => rfl
  | cons r requests ih =>
      rw [after_cons, ih, (called_run r b).logged, List.map_cons, List.reverse_cons,
        List.append_assoc, List.singleton_append]

/-- Each call of an operation takes one of its failures, and no other call does. -/
theorem queued_after (requests : List Request) (b : Browser) (op : BrowserOp) :
    (after requests b).queued op = (b.queued op).drop ((requests.map Request.op).count op) := by
  induction requests generalizing b with
  | nil => rfl
  | cons r requests ih =>
      rw [after_cons, ih, List.map_cons]
      by_cases hop : r.op = op
      · subst hop
        rw [(called_run r b).spent, List.count_cons_self, List.drop_tail]
      · rw [(called_run r b).others op (Ne.symm hop), List.count_cons_of_ne hop]

/-- **A call that fails changes nothing but the log.**  Every call of a browser is written into the
log once, takes the oldest failure that is queued for its operation and fails with it, and leaves
the failures of other operations in the queue; if it fails, for whatever reason, the elements, the
address, the window, the frame, the scripts and the rules for them are what they were.  So of the
calls of an operation, whatever is called between them, the first fails with the first failure that
was queued for it, the second with the second, and so on. -/
theorem failed_call_only_logs (b : Browser) :
    (∀ r : Request, Called r.op b (r.run b).1 (r.run b).2) ∧
      ∀ (requests : List Request) (r : Request),
        (after requests b).calls = (requests.map op).reverse ++ b.calls ∧
          ∀ f, (b.queued r.op)[(requests.map op).count r.op]? = some f →
            (r.run (after requests b)).1 = some f := by
  refine ⟨fun r => called_run r b, fun requests r => ⟨calls_after requests b, fun f hf => ?_⟩⟩
  refine (called_run r (after requests b)).failed f ?_
  rw [queued_after, List.head?_drop]
  exact hf

end Request

end Bindery
