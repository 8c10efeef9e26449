import Bindery.Proofs.Calls

/-!
# Bindery — Proofs — Onward

How the world goes on.  The log of calls only grows, no change of the page is put on the list of
those to come, and a failure is injected only from outside: it stood in the queue or among the
coming changes before, and switching to a window fails for no other cause (`World.Onward`).

An action that goes on like this and leaves the active frame none where it was none keeps the world
*still* (`World.still`).  Time passes so, and so does every operation of the browser that is not
for changing the frame.
-/

namespace Bindery

namespace World

/-- A failure that will be queued by a change of the page. -/
def Comes (w : World) (op : BrowserOp) (f : BrowserFault) : Prop :=
  ∃ t, (t, PageChange.failNext op f) ∈ w.coming

/-- A failure that is queued or will be. -/
def Injected (w : World) (op : BrowserOp) (f : BrowserFault) : Prop :=
  (op, f) ∈ w.browser.failures ∨ w.Comes op f

/-- `w'` comes after `w`, and `made` are the calls between them, the latest first. -/
structure Onward (made : List (BrowserOp × Option BrowserFault)) (w w' : World) : Prop where
  calls : w'.calls = made ++ w.calls
  coming : w'.coming ⊆ w.coming
  injected : ∀ op f, w'.Injected op f → w.Injected op f
  switched : ∀ f, (.switchToWindow, some f) ∈ made → w.Injected .switchToWindow f

variable {α ε : Type} {made more : List (BrowserOp × Option BrowserFault)} {w w' w'' : World}

theorem Onward.comes (h : Onward made w w') {op : BrowserOp} {f : BrowserFault}
    (hf : w'.Comes op f) : w.Comes op f := by
  obtain ⟨t, ht⟩ := hf
  exact ⟨t, h.coming ht⟩

theorem Onward.refl (w : World) : Onward [] w w :=
  ⟨rfl, fun _ h => h, fun _ _ h => h, fun _ h => nomatch h⟩

theorem Onward.trans (h₁ : Onward made w w') (h₂ : Onward more w' w'') :
    Onward (more ++ made) w w'' where
  calls := by rw [h₂.calls, h₁.calls, List.append_assoc]
  coming := fun _ h => h₁.coming (h₂.coming h)
  injected := fun op f h => h₁.injected op f (h₂.injected op f h)
  switched := fun f h => by
    rcases List.mem_append.1 h with h | h
    · exact h₁.injected _ _ (h₂.switched f h)
    · exact h₁.switched f h

/-- Files, photographs and queries are apart from the browser. -/
theorem Onward.beside (w : World) (host : Host) (shots : List Shot) (asked : List Query) :
    Onward [] w { w with host, shots, asked } :=
  ⟨rfl, fun _ h => h, fun _ _ h => h, fun _ h => nomatch h⟩

/-! ### Time -/

/-- What happens to the browser by itself is what was coming. -/
theorem happen_spec (time : Nat) (b : Browser) (coming : List (Nat × PageChange)) :
    (happen time b coming).1.calls = b.calls ∧ (happen time b coming).1.frame = b.frame ∧
      (happen time b coming).2 ⊆ coming ∧
      ∀ op f, (op, f) ∈ (happen time b coming).1.failures →
        (op, f) ∈ b.failures ∨ ∃ t, (t, PageChange.failNext op f) ∈ coming := by
  induction coming generalizing b with
  | nil => exact ⟨rfl, rfl, fun _ h => h, fun _ _ h => .inl h⟩
  | cons p rest ih =>
      obtain ⟨t, c⟩ := p
      rw [happen]
      split
      · obtain ⟨hcalls, hframe, hsub, hfail⟩ := ih (b.apply c)
        refine ⟨hcalls.trans ?_, hframe.trans ?_, fun p hp => .tail _ (hsub hp),
          fun op f hf => ?_⟩
        · cases c <;> rfl
        · cases c <;> rfl
        · rcases hfail op f hf with h | ⟨t', h⟩
          · -- what is queued after a change was queued before, or is the change itself
            cases c with
            | failNext o g =>
                rcases List.mem_append.1 h with h | h
                · exact .inl h
                · obtain ⟨rfl, rfl⟩ := Prod.mk.injEq .. ▸ List.mem_singleton.1 h
                  exact .inr ⟨t, List.mem_cons_self⟩
            | _ => exact .inl h
          · exact .inr ⟨t', .tail _ h⟩
      · exact ⟨rfl, rfl, fun _ h => h, fun _ _ h => .inl h⟩

theorem onward_sleep (pause : Nat) (w : World) :
    Onward [] w (w.sleep pause) ∧ (w.sleep pause).browser.frame = w.browser.frame := by
  obtain ⟨hcalls, hframe, hsub, hfail⟩ :=
    happen_spec (Clock.after w.time pause) w.browser w.coming
  refine ⟨⟨?_, hsub, ?_, fun _ h => nomatch h⟩, hframe⟩
  · show List.zip (happen _ w.browser w.coming).1.calls w.ended = _
    rw [hcalls]
    rfl
  · rintro op f (h | ⟨t, h⟩)
    · exact hfail op f h
    · exact .inr ⟨t, hsub h⟩

/-! ### Calls -/

/-- A call of the browser goes on by this call. -/
theorem onward_browse {op : BrowserOp} {a : Browser.Act α} (ha : Browser.Call op a)
    (hswitch : op = .switchToWindow →
      ∀ b f, (a b).1 = .error f → (.switchToWindow, f) ∈ b.failures) (w : World) :
    (∃ x, (browse a w).1 = .ok x ∧ Onward [(op, none)] w (browse a w).2) ∨
      ∃ f, (browse a w).1 = .error (.browser f) ∧ Onward [(op, some f)] w (browse a w).2 := by
  have injected (op' : BrowserOp) (f : BrowserFault) (h : (browse a w).2.Injected op' f) :
      w.Injected op' f := by
    rcases h with h | ⟨t, h⟩
    · rw [browse_browser] at h
      exact .inl (ha.queue _ h)
    · rw [browse_coming] at h
      exact .inr ⟨t, h⟩
  have coming : (browse a w).2.coming ⊆ w.coming := by
    rw [browse_coming]
    exact fun _ h => h
  rcases browse_cases ha w with ⟨x, hx, hcalls⟩ | ⟨f, hf, hcalls⟩
  · exact .inl ⟨x, hx, hcalls, coming, injected, fun f h => by simp at h⟩
  · refine .inr ⟨f, hf, hcalls, coming, injected, fun g h => ?_⟩
    obtain ⟨rfl, rfl⟩ : .switchToWindow = op ∧ g = f := by simpa using h
    refine .inl (hswitch rfl _ _ ?_)
    rcases e : a w.browser with ⟨f' | x, b⟩
    · simp only [browse, e, Except.error.injEq, InteractionFault.browser.injEq] at hf
      rw [hf]
    · simp [browse, e] at hf

/-- Switching to a window leaves no frame active, unless it fails because a failure was queued. -/
theorem switchToWindow_cases (window : String) (w : World) :
    ((browse (Browser.switchToWindow window) w).1 = .ok () ∧
        (browse (Browser.switchToWindow window) w).2.browser.frame = none ∧
        Onward [(.switchToWindow, none)] w (browse (Browser.switchToWindow window) w).2) ∨
      ∃ f, (browse (Browser.switchToWindow window) w).1 = .error (.browser f) ∧
        Onward [(.switchToWindow, some f)] w (browse (Browser.switchToWindow window) w).2 := by
  have fails (b : Browser) (f : BrowserFault)
      (h : (Browser.switchToWindow window b).1 = .error f) :
      (.switchToWindow, f) ∈ b.failures := by
    unfold Browser.switchToWindow at h
    rw [Act.bind_run, Browser.enter_run] at h
    rcases e : Browser.takeFailure .switchToWindow b.failures with _ | ⟨g, left⟩
    · rw [e] at h; cases h
    · rw [e] at h
      cases h
      exact (Browser.mem_of_takeFailure e).1
  rcases onward_browse (.switchToWindow window) (fun _ => fails) w with ⟨⟨⟩, hx, h⟩ | ⟨f, hf, h⟩
  · refine .inl ⟨hx, ?_, h⟩
    rw [browse_browser]
    unfold browse at hx
    unfold Browser.switchToWindow at hx ⊢
    rw [Act.bind_run, Browser.enter_run] at hx ⊢
    rcases e : Browser.takeFailure .switchToWindow w.browser.failures with _ | ⟨g, left⟩
    · rfl
    · rw [e] at hx; cases hx
  · exact .inr ⟨f, hf, h⟩

/-- Where the current window is told no failure is queued for telling it; where it is not, one
was. -/
theorem currentWindow_cases (w : World) :
    (∃ window, (browse Browser.currentWindow w).1 = .ok window ∧
        Onward [(.currentWindow, none)] w (browse Browser.currentWindow w).2 ∧
        ∀ g, (.currentWindow, g) ∉ (browse Browser.currentWindow w).2.browser.failures) ∨
      ∃ f, (browse Browser.currentWindow w).1 = .error (.browser f) ∧
        Onward [(.currentWindow, some f)] w (browse Browser.currentWindow w).2 ∧
        w.Injected .currentWindow f := by
  rcases onward_browse .currentWindow (fun h => nomatch h) w with ⟨window, hx, h⟩ | ⟨f, hf, h⟩
  · refine .inl ⟨window, hx, h, ?_⟩
    rw [browse_browser]
    rcases e : Browser.currentWindow w.browser with ⟨g | window', b⟩
    · simp [browse, e] at hx
    · exact Browser.Call.currentWindow.free _ _ _ e
  · refine .inr ⟨f, hf, h, .inl ?_⟩
    unfold browse at hf
    unfold Browser.currentWindow at hf
    rw [Act.bind_run, Browser.enter_run] at hf
    rcases e : Browser.takeFailure .currentWindow w.browser.failures with _ | ⟨g, left⟩
    · rw [e] at hf; cases hf
    · rw [e] at hf
      cases hf
      exact (Browser.mem_of_takeFailure e).1

/-! ### Bounds -/

/-- The bounds of everything that happens to the world. -/
def onward : Bounds World :=
  .ofRelation (fun w w' => ∃ made, Onward made w w') (fun w => ⟨[], .refl w⟩)
    fun _ _ _ ⟨_, h₁⟩ ⟨_, h₂⟩ => ⟨_, h₁.trans h₂⟩

/-- What goes on without a frame becoming active. -/
def Still (w w' : World) : Prop :=
  (∃ made, Onward made w w') ∧ (w.browser.frame = none → w'.browser.frame = none)

theorem Still.refl (w : World) : Still w w :=
  ⟨⟨[], .refl w⟩, fun h => h⟩

theorem Still.trans (h₁ : Still w w') (h₂ : Still w' w'') : Still w w'' := by
  obtain ⟨⟨made, h₁⟩, hf₁⟩ := h₁
  obtain ⟨⟨more, h₂⟩, hf₂⟩ := h₂
  exact ⟨⟨_, h₁.trans h₂⟩, fun h => hf₂ (hf₁ h)⟩

theorem Still.beside (w : World) (host : Host) (shots : List Shot) (asked : List Query) :
    Still w { w with host, shots, asked } :=
  ⟨⟨[], .beside w host shots asked⟩, fun h => h⟩

/-- The bounds of what activates no frame. -/
def still : Bounds World := .ofRelation Still .refl fun _ _ _ => .trans

theorem onward_of_still {a : Act ε α} (ha : a.Within still) : a.Within onward :=
  Act.Within.ofRelation_iff.2 fun w => (Act.Within.ofRelation_iff.1 ha w).1

theorem within_onward_browse {op : BrowserOp} {a : Browser.Act α} (ha : Browser.Call op a)
    (hop : op ≠ .switchToWindow) : Act.Within onward (browse a) := by
  refine Act.Within.ofRelation_iff.2 fun w => ?_
  rcases onward_browse ha (fun h => absurd h hop) w with ⟨_, -, h⟩ | ⟨_, -, h⟩
  · exact ⟨_, h⟩
  · exact ⟨_, h⟩

theorem within_still_browse {op : BrowserOp} {a : Browser.Act α} (ha : Browser.Call op a)
    (hop : op.changesFrame = false) : Act.Within still (browse a) := by
  have hne : op ≠ .switchToWindow := by
    rintro rfl
    cases hop
  refine Act.Within.ofRelation_iff.2 fun w => ⟨?_, fun h => ?_⟩
  · exact Act.Within.ofRelation_iff.1 (within_onward_browse ha hne) w
  · rw [browse_browser, ha.frame hop]
    exact h

/-- Going to an address leaves no frame active where it succeeds. -/
theorem within_still_navigateTo (url : String) :
    Act.Within still (browse (Browser.navigateTo url)) := by
  refine Act.Within.ofRelation_iff.2 fun w => ⟨?_, fun h => ?_⟩
  · exact Act.Within.ofRelation_iff.1 (within_onward_browse (.navigateTo url) (by simp)) w
  · rw [browse_browser]
    unfold Browser.navigateTo
    rw [Act.bind_run, Browser.enter_run]
    rcases Browser.takeFailure .navigateTo w.browser.failures with _ | ⟨f, left⟩
    · rfl
    · exact h

theorem still_sleep (pause : Nat) (w : World) : Still w (w.sleep pause) := by
  obtain ⟨h, hframe⟩ := onward_sleep pause w
  exact ⟨⟨_, h⟩, fun hw => hframe.trans hw⟩

theorem within_still_pause (pause : Nat) : Act.Within still (World.pause pause : Act ε Unit) :=
  .modify fun w => still_sleep pause w

end World

end Bindery
