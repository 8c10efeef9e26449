import Bindery.Interaction.Primitive
import Bindery.Proofs.Course
import Bindery.Proofs.Onward
import Bindery.Proofs.Rounds

/-!
# Bindery — Proofs — Active frame

Where an interaction leaves the active frame.  Finding an element may enter a frame, once for each
container and again at the second try; the one way out is the switch back to the window that was
kept.  So a frame stays active only where that switch failed, and then it is the last call there was
(`World.Lost`).

A wait does not end there: it may swallow the failure and ask again.  The next interaction asks for
the current window first, which fails only if a failure was injected, and there is none left in the
queue once the question was answered.  What a wait keeps is therefore that a frame is active only
after a lost switch, with nothing queued for that question but what came from outside meanwhile
(`World.Astray`).
-/

namespace Bindery

namespace World

/-- The calls between two worlds end with a switch to a window that failed.  Only questions for the
current window come after it that failed too, and not unless such a failure was to be injected
meanwhile. -/
def Lost (w : World) (made : List (BrowserOp × Option BrowserFault)) : Prop :=
  ∃ f unanswered earlier, made = unanswered ++ (.switchToWindow, some f) :: earlier ∧
    (∀ c ∈ unanswered, ∃ g, c = (.currentWindow, some g)) ∧
    ((∀ g, ¬ w.Comes .currentWindow g) → unanswered = [])

/-- What comes of a world where no frame is active: none is active again, or the way back was
lost. -/
def Astray (w w' : World) : Prop :=
  w.browser.frame = none → ∃ made, Onward made w w' ∧ (w'.browser.frame = none ∨ Lost w made)

variable {made more : List (BrowserOp × Option BrowserFault)} {w w' w'' : World}

theorem Lost.after (h₁ : Onward made w w') (h : Lost w' more) : Lost w (more ++ made) := by
  obtain ⟨f, unanswered, earlier, rfl, hunanswered, hnone⟩ := h
  refine ⟨f, unanswered, earlier ++ made, by simp, hunanswered, fun hw => ?_⟩
  exact hnone fun g hg => hw g (h₁.comes hg)

theorem Still.astray (h : Still w w') : Astray w w' := by
  intro hw
  obtain ⟨⟨made, h⟩, hframe⟩ := h
  exact ⟨made, h, .inl (hframe hw)⟩

theorem Astray.after (h₁ : Still w w') (h₂ : Astray w' w'') : Astray w w'' := by
  intro hw
  obtain ⟨⟨made, h₁⟩, hf₁⟩ := h₁
  obtain ⟨more, h₂, hf₂⟩ := h₂ (hf₁ hw)
  exact ⟨more ++ made, h₁.trans h₂, hf₂.imp id (.after h₁)⟩

/-- The bounds of what leaves no frame active, unless it fails because the way back was lost. -/
def frameless : Bounds World where
  done := Still
  failed := Astray
  refl := .refl
  trans := .trans
  after := .after
  stop := fun w => (Still.refl w).astray

theorem frameless_of_still {ε α : Type} {a : Act ε α} (ha : a.Within still) :
    a.Within frameless := by
  intro w
  have h := Act.Within.ofRelation_iff.1 ha w
  rcases e : a w with ⟨f | x, w'⟩
  · rw [e] at h
    exact .failed h.astray
  · rw [e] at h
    exact .done h

end World

namespace Interaction

open World (browse Onward Still onward still frameless)

variable {α : Type} {l : Locator} {deed : ElementId → World.Act InteractionFault α}

/-! ### One try -/

theorem within_onward_locate (l : Locator) : (locate l).Within onward :=
  within_locate (fun _ _ _ => World.within_onward_browse (.findElement _ _ _) (by simp))
    (fun _ => World.within_onward_browse (.readElement _ _ _) (by simp))
    (fun _ => World.within_onward_browse (.switchToFrame _) (by simp)) l

theorem within_onward_once (hdeed : ∀ id, (deed id).Within still) :
    (once l deed).Within onward :=
  .bind (within_onward_locate l) fun id => World.onward_of_still (hdeed id)

/-- An element that is in no other one is found without activating a frame. -/
theorem within_still_once (hc : l.container = none) (hdeed : ∀ id, (deed id).Within still) :
    (once l deed).Within still := by
  obtain ⟨e, strategy, expression, container⟩ := l
  cases hc
  exact .bind (World.within_still_browse (.findElement _ _ _) rfl) hdeed

theorem within_onward_switch (window : String) :
    Act.Within onward (browse (Browser.switchToWindow window)) := by
  refine Act.Within.ofRelation_iff.2 fun w => ?_
  rcases World.switchToWindow_cases window w with ⟨-, -, h⟩ | ⟨f, -, h⟩
  · exact ⟨_, h⟩
  · exact ⟨_, h⟩

end Interaction

/-! ### Interactions -/

namespace World

/-- What a wait keeps from `w` on: a frame is active only after a lost switch, for an element
inside another one, and then no failure to tell the current window is left but what came from
outside. -/
def Waiting (inside : Prop) (w w' : World) : Prop :=
  ∃ made, Onward made w w' ∧
    (w'.browser.frame = none ∨
      inside ∧ Lost w made ∧ ∀ g, w'.Injected .currentWindow g → w.Comes .currentWindow g)

variable {made more : List (BrowserOp × Option BrowserFault)} {inside : Prop} {w w' w'' : World}

theorem Waiting.refl (h : w.browser.frame = none) : Waiting inside w w :=
  ⟨[], .refl w, .inl h⟩

theorem Waiting.astray (h : w.browser.frame = none → Waiting inside w w') : Astray w w' := by
  intro hw
  obtain ⟨made, h, hframe⟩ := h hw
  exact ⟨made, h, hframe.imp id fun ⟨_, hlost, _⟩ => hlost⟩

/-- What keeps quiet and leaves the frame as it is goes on with a wait. -/
theorem Waiting.quiet (h : Waiting inside w w') (h' : Onward [] w' w'')
    (hframe : w''.browser.frame = w'.browser.frame) : Waiting inside w w'' := by
  obtain ⟨made, h, hw⟩ := h
  refine ⟨made, h.trans h', ?_⟩
  rcases hw with hw | ⟨hin, hlost, hfree⟩
  · exact .inl (hframe.trans hw)
  · exact .inr ⟨hin, hlost, fun g hg => hfree g (h'.injected _ _ hg)⟩

theorem Waiting.sleep (h : Waiting inside w w') (pause : Nat) : Waiting inside w (w'.sleep pause) :=
  h.quiet (onward_sleep pause w').1 (onward_sleep pause w').2

theorem Waiting.photographed {α : Type} (i : Interactor) (action : Option String) (l : Locator)
    (r : Except InteractionFault α) (h : Waiting inside w w') :
    Waiting inside w (Interaction.photographed i action l r w') := by
  obtain ⟨shots, hshots⟩ := Interactor.photographed_eq i action l r w'
  rw [hshots]
  exact h.quiet (.beside w' w'.host shots w'.asked) rfl

/-- The current window is not told: a frame stays active only if that failure came from outside
meanwhile. -/
theorem Waiting.unanswered {f : BrowserFault} (h : Waiting inside w w')
    (h' : Onward [(.currentWindow, some f)] w' w'')
    (hframe : w''.browser.frame = w'.browser.frame) (hf : w'.Injected .currentWindow f) :
    Waiting inside w w'' := by
  obtain ⟨made, h, hw⟩ := h
  refine ⟨_, h.trans h', ?_⟩
  rcases hw with hw | ⟨hin, ⟨g, unanswered, earlier, rfl, hunanswered, -⟩, hfree⟩
  · exact .inl (hframe.trans hw)
  · -- one more question that was not answered, on top of those after the lost switch
    refine .inr ⟨hin, ⟨g, (.currentWindow, some f) :: unanswered, earlier, rfl, ?_, ?_⟩,
      fun g hg => hfree g (h'.injected _ _ hg)⟩
    · exact List.forall_mem_cons.2 ⟨⟨f, rfl⟩, hunanswered⟩
    · exact fun hnone => absurd (hfree f hf) (hnone f)

/-- The current window was told, and the way back to it is taken last. -/
theorem waiting_restored (window : String) {u v : World} (h : Onward made w u)
    (hu : ∀ g, (.currentWindow, g) ∉ u.browser.failures) (hv : Onward more u v) :
    Waiting True w (browse (Browser.switchToWindow window) v).2 := by
  rcases switchToWindow_cases window v with ⟨-, hframe, hb⟩ | ⟨f, -, hb⟩
  · exact ⟨_, (h.trans hv).trans hb, .inl hframe⟩
  · have hlost : Lost w ([(.switchToWindow, some f)] ++ (more ++ made)) :=
      ⟨f, [], more ++ made, rfl, by simp, fun _ => rfl⟩
    refine ⟨_, (h.trans hv).trans hb, .inr ⟨trivial, hlost, fun g hg => ?_⟩⟩
    rcases hv.injected _ _ (hb.injected _ _ hg) with hg | hg
    · exact absurd hg (hu g)
    · exact h.comes hg

end World

namespace Interactor

open World (browse Onward Still Waiting Astray onward still frameless)
open Interaction

variable {α : Type} {l : Locator} {deed : ElementId → World.Act InteractionFault α} {w w' : World}

/-- An interaction goes on with a wait. -/
theorem waiting_withElement (i : Interactor) (action : Option String)
    (hdeed : ∀ id, (deed id).Within still) (h : Waiting (l.container.isSome = true) w w') :
    Waiting (l.container.isSome = true) w (i.withElement action l deed w').2 := by
  obtain ⟨out, hout⟩ := exists_course i action l deed w'
  rw [withElement_of_course hout]
  cases hout with
  | @plain n r w₁ hc ht =>
      obtain ⟨⟨more, h₁⟩, hframe⟩ := ht.keeps (within_still_once hc hdeed) (.pure ())
      obtain ⟨made, h, hw⟩ := h
      refine .photographed i action l r ⟨_, h.trans h₁, ?_⟩
      rcases hw with hw | ⟨hin, -⟩
      · exact .inl (hframe hw)
      · rw [hc] at hin; cases hin
  | @unkept c f w₁ hc hk =>
      rcases World.currentWindow_cases w' with ⟨_, hx, -⟩ | ⟨g, -, hg, hinj⟩
      · rw [hk] at hx; cases hx
      · have hframe : (browse Browser.currentWindow w').2.browser.frame = w'.browser.frame := by
          rw [World.browse_browser]
          exact Browser.Call.currentWindow.frame rfl _
        rw [hk] at hg hframe
        exact h.unanswered hg hframe hinj
  | @kept c window n r back w₁ w₂ w₃ hc hk ht hb =>
      have hin : (l.container.isSome = true) = True := by rw [hc]; simp
      rw [hin] at h ⊢
      refine .photographed i action l _ ?_
      rcases World.currentWindow_cases w' with ⟨_, -, hg, hfree⟩ | ⟨_, hx, -⟩
      · -- whatever the tries did to the frame, the last call is the switch back
        rw [hk] at hg hfree
        obtain ⟨more, h₂⟩ := ht.keeps (within_onward_once hdeed) (within_onward_switch window)
        obtain ⟨made, h, -⟩ := h
        have hw₃ := World.waiting_restored window (h.trans hg) hfree h₂
        rwa [hb] at hw₃
      · rw [hk] at hx; cases hx

/-- An interaction that succeeds leaves no frame active. -/
theorem still_withElement (i : Interactor) (action : Option String)
    (hdeed : ∀ id, (deed id).Within still) {a : α}
    (h : i.withElement action l deed w = (.ok a, w')) : Still w w' := by
  have hout := withElement_iff.1 h
  have hphoto (r : Except InteractionFault α) {v : World} (hv : Still w v) :
      Still w (photographed i action l r v) := by
    obtain ⟨shots, hshots⟩ := photographed_eq i action l r v
    rw [hshots]
    exact hv.trans (.beside v v.host shots v.asked)
  generalize hr : (Except.ok a, w') = out at hout
  cases hout with
  | @plain n r w₁ hc ht =>
      cases hr
      exact hphoto _ (ht.keeps (within_still_once hc hdeed) (.pure ()))
  | unkept hc hk => cases hr
  | @kept c window n r back w₁ w₂ w₃ hc hk ht hb =>
      obtain ⟨hsettle, rfl⟩ := Prod.mk.inj hr
      refine hphoto _ ?_
      obtain ⟨made, h₁⟩ := Act.Within.ofRelation_iff.1
        (World.within_onward_browse .currentWindow (by simp)) w
      obtain ⟨more, h₂⟩ := ht.keeps (within_onward_once hdeed) (within_onward_switch window)
      rw [hk] at h₁
      rcases World.switchToWindow_cases window w₂ with ⟨-, hframe, h₃⟩ | ⟨f, hf, -⟩
      · rw [hb] at hframe h₃
        exact ⟨⟨_, (h₁.trans h₂).trans h₃⟩, fun _ => hframe⟩
      · rw [hb] at hf
        cases hf
        cases r <;> cases hsettle

/-- An interaction leaves no frame active, unless the way back was lost. -/
theorem within_frameless_withElement (i : Interactor) (action : Option String)
    (hdeed : ∀ id, (deed id).Within still) : (i.withElement action l deed).Within frameless := by
  intro w
  have h : Astray w (i.withElement action l deed w).2 :=
    Waiting.astray fun hw => waiting_withElement i action hdeed (.refl hw)
  rcases e : i.withElement action l deed w with ⟨f | a, w'⟩
  · rw [e] at h
    exact .failed h
  · exact .done (still_withElement i action hdeed e)

end Interactor

end Bindery
