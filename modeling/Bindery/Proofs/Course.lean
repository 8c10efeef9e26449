import Bindery.Interaction.Element
import Bindery.Proofs.Calls

/-!
# Bindery — Proofs — Course

The course of an interaction with an element, spelled out.  A try locates the element and does the
deed to it.  There is a second try only after a first one that failed in a way that may pass, and
no third (`Tries`).  Where the element is inside another one, the current window is asked for first,
the interaction goes back to it before the second try, and it is made current again at the end,
however the tries ended (`Course`).

`withElement_iff` says that an interaction takes this course and no other.  The retry loop that it
runs on counts to a large number of tries; that it stops after two is `Retry.attempt_once`.
-/

namespace Bindery

/-! ### One retry -/

/-- One round of trying with a single retry. -/
theorem Retry.run_once {σ α : Type} [Timed σ] (op : Try → Act σ InteractionFault α)
    (started n number : Nat) (s : σ) :
    Retry.run .once op started (n + 1) number s =
      match op ⟨number, none⟩ s with
      | (.ok a, t) => (.ok a, t)
      | (.error e, t) =>
        if !e.isRetryable || decide (1 ≤ number - 1) then (.error e, t)
        else Retry.run .once op started n (number + 1) t := rfl

/-- A single retry is a second try where the first failed in a way that may pass. -/
theorem Retry.attempt_once {σ α : Type} [Timed σ] (op : Try → Act σ InteractionFault α) (s : σ) :
    Retry.attempt .once op s =
      match op ⟨1, none⟩ s with
      | (.ok a, t) => (.ok a, t)
      | (.error e, t) => if e.isRetryable then op ⟨2, none⟩ t else (.error e, t) := by
  -- two rounds of the loop; the others are out of reach
  obtain ⟨m, hm⟩ : ∃ m, Retry.maxTries = m + 1 + 1 := ⟨4294967293, rfl⟩
  rw [Retry.attempt, hm, Retry.run_once]
  rcases op ⟨1, none⟩ s with ⟨e | a, t⟩
  · cases he : e.isRetryable with
    | false => simp [he]
    | true =>
        simp only [he, Retry.run_once]
        rcases op ⟨2, none⟩ t with ⟨e' | a, u⟩ <;> simp
  · rfl

namespace Interaction

open World (browse)

variable {α : Type}

/-! ### The course of an interaction -/

/-- One try: the element is located, and the deed is done to it. -/
def once (l : Locator) (deed : ElementId → World.Act InteractionFault α) :
    World.Act InteractionFault α := do
  deed (← locate l)

/-- Whether a try that ended so is the last one. -/
def Final : Except InteractionFault α → Prop
  | .ok _ => True
  | .error e => e.isRetryable = false

/-- The tries of an interaction that begins in `w`: how many there are, how they end and where.
`back` is what comes before a second try. -/
inductive Tries (l : Locator) (back : World.Act InteractionFault Unit)
    (deed : ElementId → World.Act InteractionFault α) (w : World) :
    Nat → Except InteractionFault α → World → Prop where
  | first {r : Except InteractionFault α} {w₁ : World} (h : once l deed w = (r, w₁))
      (hr : Final r) : Tries l back deed w 1 r w₁
  | lost {e f : InteractionFault} {w₁ w₂ : World} (h : once l deed w = (.error e, w₁))
      (he : e.isRetryable = true) (hb : back w₁ = (.error f, w₂)) :
      Tries l back deed w 1 (.error f) w₂
  | second {e : InteractionFault} {r : Except InteractionFault α} {w₁ w₂ w₃ : World}
      (h : once l deed w = (.error e, w₁)) (he : e.isRetryable = true)
      (hb : back w₁ = (.ok (), w₂)) (h₂ : once l deed w₂ = (r, w₃)) : Tries l back deed w 2 r w₃

/-- How an interaction ends, from how its last try and the return to its window ended. -/
def settle : Except InteractionFault α → Except InteractionFault Unit → Except InteractionFault α
  | .error e, _ => .error e
  | .ok _, .error e => .error e
  | .ok a, .ok () => .ok a

/-- The world after the photograph of an interaction, which is taken only if it succeeded. -/
def photographed (i : Interactor) (action : Option String) (l : Locator) :
    Except InteractionFault α → World → World
  | .ok _, w => (i.capture action l.element w).2
  | .error _, w => w

/-- The course of an interaction that begins in `w`, and what it ends in. -/
inductive Course (i : Interactor) (action : Option String) (l : Locator)
    (deed : ElementId → World.Act InteractionFault α) (w : World) :
    Except InteractionFault α × World → Prop where
  /-- An element that is in no other one. -/
  | plain {n : Nat} {r : Except InteractionFault α} {w₁ : World} (hc : l.container = none)
      (ht : Tries l (pure ()) deed w n r w₁) :
      Course i action l deed w (r, photographed i action l r w₁)
  /-- The current window is not told. -/
  | unkept {c : Locator} {f : InteractionFault} {w₁ : World} (hc : l.container = some c)
      (hk : browse Browser.currentWindow w = (.error f, w₁)) :
      Course i action l deed w (.error f, w₁)
  /-- The window that is current is made current again before a second try and at the end. -/
  | kept {c : Locator} {window : String} {n : Nat} {r : Except InteractionFault α}
      {back : Except InteractionFault Unit} {w₁ w₂ w₃ : World} (hc : l.container = some c)
      (hk : browse Browser.currentWindow w = (.ok window, w₁))
      (ht : Tries l (browse (Browser.switchToWindow window)) deed w₁ n r w₂)
      (hb : browse (Browser.switchToWindow window) w₂ = (back, w₃)) :
      Course i action l deed w (settle r back, photographed i action l (settle r back) w₃)

/-! ### What finding an element calls -/

/-- Finding an element stays within bounds when the three operations do that it is made of. -/
theorem within_locate {B : Bounds World}
    (hfind : ∀ strategy expression within,
      Act.Within B (browse (Browser.findElement strategy expression within)))
    (htag : ∀ id, Act.Within B (browse (Browser.tagName id)))
    (hframe : ∀ id, Act.Within B (browse (Browser.switchToFrame id))) :
    ∀ l : Locator, (locate l).Within B
  | .mk _ _ _ none => hfind _ _ _
  | .mk _ _ _ (some container) => by
      rw [locate]
      -- the container first, as a locator of its own
      refine .bind (within_locate hfind htag hframe container) fun around =>
        .bind ?_ fun framed => ?_
      · exact .bind (htag around) fun _ => .pure _
      · exact .ite (.bind (hframe around) fun _ => hfind _ _ _) (hfind _ _ _)

/-- The operations of the browser that an element is found with. -/
def lookups : List BrowserOp := [.findElement, .tagName, .switchToFrame]

theorem calling_locate (l : Locator) : (locate l).Within (World.calling lookups) :=
  within_locate (fun _ _ _ => World.calling_browse (.findElement _ _ _) (by simp [lookups]))
    (fun _ => World.calling_browse (.readElement _ _ _) (by simp [lookups]))
    (fun _ => World.calling_browse (.switchToFrame _) (by simp [lookups])) l

/-! ### Every interaction takes it -/

theorem attempt_of_tries {l : Locator} {kept : Option String}
    {deed : ElementId → World.Act InteractionFault α} {n : Nat} {r : Except InteractionFault α}
    {w w' : World} (h : Tries l (restore kept) deed w n r w') :
    Retry.attempt .once (tryOn l kept deed) w = (r, w') := by
  have first : tryOn l kept deed ⟨1, none⟩ = once l deed := rfl
  have second : tryOn l kept deed ⟨2, none⟩ = (restore kept >>= fun _ => once l deed) := rfl
  rw [Retry.attempt_once, first, second]
  cases h with
  | first h hr =>
      rw [h]
      rcases r with e | a
      · simp only [Final] at hr
        simp [hr]
      · rfl
  | lost h he hb => simp [h, he, Act.bind_run_error hb]
  | second h he hb h₂ => simp [h, he, Act.bind_run_ok hb, h₂]

theorem exists_tries (l : Locator) (back : World.Act InteractionFault Unit)
    (deed : ElementId → World.Act InteractionFault α) (w : World) :
    ∃ n r w', Tries l back deed w n r w' := by
  rcases h : once l deed w with ⟨e | a, w₁⟩
  · cases he : e.isRetryable with
    | false => exact ⟨1, _, _, .first h he⟩
    | true =>
        rcases hb : back w₁ with ⟨f | _, w₂⟩
        · exact ⟨1, _, _, .lost h he hb⟩
        · exact ⟨2, _, _, .second h he hb rfl⟩
  · exact ⟨1, _, _, .first h trivial⟩

/-- There are at most two tries. -/
theorem Tries.le_two {l : Locator} {back : World.Act InteractionFault Unit}
    {deed : ElementId → World.Act InteractionFault α} {n : Nat} {r : Except InteractionFault α}
    {w w' : World} (h : Tries l back deed w n r w') : n ≤ 2 := by
  cases h <;> omega

/-- Tries keep what each of their parts keeps. -/
theorem Tries.keeps {l : Locator} {back : World.Act InteractionFault Unit}
    {deed : ElementId → World.Act InteractionFault α} {R : World → World → Prop}
    {refl : ∀ w, R w w} {trans : ∀ ⦃u v w⦄, R u v → R v w → R u w} {n : Nat}
    {r : Except InteractionFault α} {w w' : World} (h : Tries l back deed w n r w')
    (honce : (once l deed).Within (.ofRelation R refl trans))
    (hback : back.Within (.ofRelation R refl trans)) : R w w' := by
  cases h with
  | first h hr => exact honce.of_run h
  | lost h he hb => exact trans (honce.of_run h) (hback.of_run hb)
  | second h he hb h₂ =>
      exact trans (trans (honce.of_run h) (hback.of_run hb)) (honce.of_run h₂)

end Interaction

namespace Interactor

open World (browse)
open Interaction

variable {α : Type} {i : Interactor} {action : Option String} {l : Locator}
  {deed : ElementId → World.Act InteractionFault α} {w : World}

/-- Taking a photograph changes only the log of photographs, whether it fails or not. -/
theorem capture_run (i : Interactor) (action : Option String) (element : String) (w : World) :
    ∃ shots, i.capture action element w = (.ok (), { w with shots }) := by
  rcases action with _ | action
  · exact ⟨w.shots, rfl⟩
  · unfold capture
    split
    · refine ⟨⟨action, element⟩ :: w.shots, ?_⟩
      unfold photograph
      cases i.camera <;> rfl
    · exact ⟨w.shots, rfl⟩

theorem photographed_eq (i : Interactor) (action : Option String) (l : Locator)
    (r : Except InteractionFault α) (w : World) :
    ∃ shots, photographed i action l r w = { w with shots } := by
  rcases r with e | a
  · exact ⟨w.shots, rfl⟩
  · obtain ⟨shots, h⟩ := capture_run i action l.element w
    exact ⟨shots, by rw [photographed, h]⟩

/-- The parts of an interaction put together. -/
theorem withElement_of_parts {kept : Option String} {r : Except InteractionFault α}
    {back : Except InteractionFault Unit} {w₁ w₂ w₃ : World}
    (hk : keptWindow l w = (.ok kept, w₁))
    (ht : Retry.attempt .once (tryOn l kept deed) w₁ = (r, w₂))
    (hb : restore kept w₂ = (back, w₃)) :
    i.withElement action l deed w =
      (settle r back, photographed i action l (settle r back) w₃) := by
  unfold withElement
  rw [Act.bind_run_ok hk, Act.bind_run_ok (x := r) (t := w₂) (by rw [Act.outcome, ht]),
    Act.bind_run_ok (x := back) (t := w₃) (by rw [Act.outcome, hb])]
  rcases r with e | a
  · rfl
  · rcases back with f | ⟨⟩
    · rfl
    · obtain ⟨shots, h⟩ := capture_run i action l.element w₃
      simp only [settle, photographed]
      rw [Act.bind_run_ok h, h]
      rfl

theorem withElement_of_course {out : Except InteractionFault α × World}
    (h : Course i action l deed w out) : i.withElement action l deed w = out := by
  cases h with
  | @plain n r w₁ hc ht =>
      have hk : keptWindow l w = (.ok none, w) := by rw [keptWindow, hc]; rfl
      have hr : settle r (.ok ()) = r := by cases r <;> rfl
      rw [withElement_of_parts hk (attempt_of_tries ht) rfl, hr]
  | unkept hc hk =>
      rw [withElement, Act.bind_run_error]
      rw [keptWindow, hc]
      exact Act.bind_run_error hk
  | @kept c window n r back w₁ w₂ w₃ hc hk ht hb =>
      have hkept : keptWindow l w = (.ok (some window), w₁) := by
        rw [keptWindow, hc]
        exact Act.bind_run_ok hk
      exact withElement_of_parts hkept (attempt_of_tries ht) hb

theorem exists_course (i : Interactor) (action : Option String) (l : Locator)
    (deed : ElementId → World.Act InteractionFault α) (w : World) :
    ∃ out, Course i action l deed w out := by
  cases hc : l.container with
  | none =>
      obtain ⟨n, r, w₁, ht⟩ := exists_tries l (pure ()) deed w
      exact ⟨_, .plain hc ht⟩
  | some c =>
      rcases hk : browse Browser.currentWindow w with ⟨f | window, w₁⟩
      · exact ⟨_, .unkept hc hk⟩
      · obtain ⟨n, r, w₂, ht⟩ := exists_tries l (browse (Browser.switchToWindow window)) deed w₁
        exact ⟨_, .kept hc hk ht rfl⟩

/-- An interaction takes its course and no other. -/
theorem withElement_iff {out : Except InteractionFault α × World} :
    i.withElement action l deed w = out ↔ Course i action l deed w out := by
  -- an interaction is a function, so it is enough that it takes some course
  refine ⟨fun h => ?_, withElement_of_course⟩
  obtain ⟨out', hout⟩ := exists_course i action l deed w
  rw [← h, withElement_of_course hout]
  exact hout

/-- An interaction keeps what its parts keep, photographs aside. -/
theorem within_withElement {R : World → World → Prop} {refl : ∀ w, R w w}
    {trans : ∀ ⦃u v w⦄, R u v → R v w → R u w} (i : Interactor) (action : Option String)
    (hkept : (browse Browser.currentWindow).Within (.ofRelation R refl trans))
    (hback : ∀ window, (browse (Browser.switchToWindow window)).Within (.ofRelation R refl trans))
    (honce : (once l deed).Within (.ofRelation R refl trans))
    (hshots : ∀ w shots, R w { w with shots }) :
    (i.withElement action l deed).Within (.ofRelation R refl trans) := by
  refine Act.Within.ofRelation_iff.2 fun w => ?_
  have photo (r : Except InteractionFault α) (v : World) : R v (photographed i action l r v) := by
    obtain ⟨shots, h⟩ := photographed_eq i action l r v
    rw [h]
    exact hshots v shots
  obtain ⟨out, hout⟩ := exists_course i action l deed w
  rw [withElement_of_course hout]
  cases hout with
  | @plain n r w₁ hc ht => exact trans (ht.keeps honce (.pure ())) (photo _ _)
  | unkept hc hk => exact hkept.of_run hk
  | @kept c window n r back w₁ w₂ w₃ hc hk ht hb =>
      exact trans (trans (hkept.of_run hk) (ht.keeps honce (hback window)))
        (trans ((hback window).of_run hb) (photo _ _))

/-! ### The calls of an interaction -/

/-- Where there is no container, an interaction looks for the element and calls nothing else but
what is done with the element. -/
theorem calling_withElement {l : Locator} (i : Interactor) (action : Option String)
    {deed : ElementId → World.Act InteractionFault α} {ops : List BrowserOp}
    (hc : l.container = none) (hdeed : ∀ id, (deed id).Within (World.calling ops)) :
    (i.withElement action l deed).Within (World.calling (.findElement :: ops)) := by
  refine Act.Within.ofRelation_iff.2 fun w => ?_
  obtain ⟨out, hout⟩ := exists_course i action l deed w
  rw [withElement_of_course hout]
  cases hout with
  | unkept hc' hk => rw [hc] at hc'; cases hc'
  | kept hc' hk ht hb => rw [hc] at hc'; cases hc'
  | @plain n r w₁ _ ht =>
      have honce : (once l deed).Within (World.calling (.findElement :: ops)) := by
        obtain ⟨e, strategy, expression, container⟩ := l
        cases hc
        refine .bind (World.calling_browse (.findElement _ _ _) (by simp)) fun id => ?_
        exact World.calling_mono (List.subset_cons_self _ _) (hdeed id)
      obtain ⟨made, hmade, hops⟩ := ht.keeps honce (.pure ())
      obtain ⟨shots, hshots⟩ := photographed_eq i action l r w₁
      exact ⟨made, by rw [hshots]; exact hmade, hops⟩

/-- Tries go back to a window once at most. -/
theorem calls_of_tries {l : Locator} {deed : ElementId → World.Act InteractionFault α}
    {window : String} {ops : List BrowserOp} {n : Nat} {r : Except InteractionFault α}
    {w w' : World} (h : Tries l (browse (Browser.switchToWindow window)) deed w n r w')
    (hops : .switchToWindow ∉ ops) (honce : (once l deed).Within (World.calling ops)) :
    ∃ tried, w'.calls = tried ++ w.calls ∧ (tried.map Prod.fst).count .switchToWindow ≤ 1 := by
  have tried {v v' : World} {x : Except InteractionFault α} (hv : once l deed v = (x, v')) :
      ∃ made, v'.calls = made ++ v.calls ∧ (made.map Prod.fst).count .switchToWindow = 0 := by
    obtain ⟨made, hmade, hin⟩ := honce.of_run hv
    refine ⟨made, hmade, List.count_eq_zero.2 fun hmem => hops ?_⟩
    obtain ⟨c, hc, hop⟩ := List.mem_map.1 hmem
    exact hop ▸ hin c hc
  cases h with
  | first h hr =>
      obtain ⟨made, hmade, hcount⟩ := tried h
      exact ⟨made, hmade, by omega⟩
  | lost h he hb =>
      obtain ⟨made, hmade, hcount⟩ := tried h
      obtain ⟨fault, hback⟩ := World.calls_of_browse (.switchToWindow window) hb
      exact ⟨(.switchToWindow, fault) :: made, by rw [hback, hmade]; rfl, by simp [hcount]⟩
  | second h he hb h₂ =>
      obtain ⟨made, hmade, hcount⟩ := tried h
      obtain ⟨fault, hback⟩ := World.calls_of_browse (.switchToWindow window) hb
      obtain ⟨more, hmore, hcount₂⟩ := tried h₂
      exact ⟨more ++ (.switchToWindow, fault) :: made, by rw [hmore, hback, hmade]; simp,
        by simp [hcount, hcount₂]⟩

/-- Where there is a container, the first call is the question for the current window.  Either it
failed and was the only one, or the last call is a switch to a window, with one more such switch
before it at most. -/
theorem calls_withElement {l c : Locator} (i : Interactor) (action : Option String)
    {deed : ElementId → World.Act InteractionFault α} {ops : List BrowserOp}
    (hc : l.container = some c) (hops : .switchToWindow ∉ ops)
    (hdeed : ∀ id, (deed id).Within (World.calling ops)) (w : World) :
    (∃ f, (i.withElement action l deed w).2.calls = (.currentWindow, some f) :: w.calls) ∨
      ∃ fault tried, (i.withElement action l deed w).2.calls =
          (.switchToWindow, fault) :: tried ++ (.currentWindow, none) :: w.calls ∧
        (tried.map Prod.fst).count .switchToWindow ≤ 1 := by
  obtain ⟨out, hout⟩ := exists_course i action l deed w
  rw [withElement_of_course hout]
  cases hout with
  | plain hc' ht => rw [hc] at hc'; cases hc'
  | unkept _ hk => exact .inl (World.calls_of_error .currentWindow hk)
  | @kept _ window n r back w₁ w₂ w₃ _ hk ht hb =>
      obtain ⟨shots, hshots⟩ := photographed_eq i action l (settle r back) w₃
      have honce : (once l deed).Within (World.calling (lookups ++ ops)) :=
        .bind (World.calling_mono (List.subset_append_left _ _) (calling_locate l))
          fun id => World.calling_mono (List.subset_append_right _ _) (hdeed id)
      obtain ⟨tried, htried, hcount⟩ := calls_of_tries ht (by simpa [lookups] using hops) honce
      have hfirst := World.calls_of_ok .currentWindow hk
      obtain ⟨fault, hlast⟩ := World.calls_of_browse (.switchToWindow window) hb
      refine .inr ⟨fault, tried, ?_, hcount⟩
      rw [hshots, List.cons_append, ← hfirst, ← htried]
      exact hlast

/-- **The course of interactions.**  An interaction with an element takes its course and no other:
it tries once or twice, it asks for the current window before and goes back to it at the end where
there is a container, and it ends as its last try did unless only the way back failed.  Where there
is no container nothing but one search is called beside what is done with the element; where there
is one, the first and the last call are those for the window, and one more switch stands between
them at most. -/
theorem withElement_course (i : Interactor) (action : Option String) (l : Locator)
    (deed : ElementId → World.Act InteractionFault α) (w : World) :
    (∀ out, i.withElement action l deed w = out ↔ Course i action l deed w out) ∧
      (∀ back v n r v', Tries l back deed v n r v' → n ≤ 2) ∧
      ∀ ops, (∀ id, (deed id).Within (World.calling ops)) →
        (l.container = none →
          (i.withElement action l deed).Within (World.calling (.findElement :: ops))) ∧
        (l.container ≠ none → .switchToWindow ∉ ops →
          (∃ f, (i.withElement action l deed w).2.calls = (.currentWindow, some f) :: w.calls) ∨
            ∃ fault tried, (i.withElement action l deed w).2.calls =
                (.switchToWindow, fault) :: tried ++ (.currentWindow, none) :: w.calls ∧
              (tried.map Prod.fst).count .switchToWindow ≤ 1) := by
  refine ⟨fun _ => withElement_iff, fun _ _ _ _ _ h => h.le_two, fun ops hdeed => ⟨fun hc => ?_,
    fun hc hops => ?_⟩⟩
  · exact calling_withElement i action hc hdeed
  · obtain ⟨c, hc⟩ := Option.ne_none_iff_exists'.1 hc
    exact calls_withElement i action hc hops hdeed w

end Interactor

end Bindery
