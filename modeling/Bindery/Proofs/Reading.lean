import Bindery.Proofs.Levels

/-!
# Bindery — Proofs — Reading

What reading the text of an element from the page does to a state (`liveText_run`), and what the
log of readings says: each reading in it was made of an element that its own locator had just been
looked up for, and gave the text that stands there (`LiveReading.Genuine`).
-/

namespace Bindery

namespace State

/-- The state after a text was read from the page. -/
def hearing (s : State) (l : Locator) (w : World) (text : String) : State where
  store := s.store.set (Key.text l.element) text
  liveReads := s.liveReads.put (Key.text l.element) text
  world := w
  readings := ⟨l, s.store, s.world, text⟩ :: s.readings

/-- What does not depend on the world is kept by whatever happens to the world. -/
theorem within_keeping_inWorld {ε α : Type} {P : State → Prop}
    (h : ∀ s w, P s → P { s with world := w }) (a : World.Act ε α) :
    Act.Within (.keeping P) (inWorld a) :=
  .inPart (.any a) (fun s w _ => h s w) fun s w _ => h s w

theorem inWorld_run {ε α : Type} (a : World.Act ε α) (s : State) :
    inWorld a s = ((a s.world).1, { s with world := (a s.world).2 }) := rfl

end State

namespace Resolver

/-- What holds of bindings whatever key is set in them holds after readings are forgotten. -/
theorem foldl_forget {P : ScopeStack → Prop}
    (hset : ∀ store key value, P store → P (ScopeStack.set key value store)) (reads : Entries)
    {store : ScopeStack} (h : P store) : P (reads.foldl forget store) := by
  induction reads generalizing store with
  | nil => exact h
  | cons read reads ih =>
      refine ih ?_
      unfold forget
      split
      · exact hset _ _ _ h
      · exact h

variable {ι : Type} [PageReader ι] (r : Resolver ι)

/-- Reading a text from the page: an interaction with the element, and the text is bound and
remembered if that succeeds. -/
theorem liveText_run (l : Locator) (s : State) :
    r.liveText l s =
      if r.dryRun then (.ok (Template.placeholder l.element), s)
      else match PageReader.text r.interactor l s.world with
        | (.error f, w) => (.error (.interaction f), { s with world := w })
        | (.ok text, w) => (.ok text, s.hearing l w text) := by
  unfold liveText
  split
  · rfl
  · rw [Act.bind_run_ok (Act.get_run s)]
    rcases e : PageReader.text r.interactor l s.world with ⟨f | text, w⟩
    · rw [Act.bind_run_error (e := .interaction f) (t := { s with world := w })]
      rw [State.inWorld_run, Act.failingAs_run_error _ e]
    · rw [Act.bind_run_ok (x := text) (t := { s with world := w })]
      · rfl
      · rw [State.inWorld_run, Act.failingAs_run_ok _ e]

end Resolver

/-- A reading that was made as the log says: the locator is what was found when the element's own
was looked up, which ended in the bindings and the world of the reading, and reading the text there
gives the text. -/
structure LiveReading.Genuine {ι : Type} [PageReader ι] (r : Resolver ι) (ρ : LiveReading) :
    Prop where
  located : ∃ room s t, r.locatorAt room ρ.locator.element s = (.ok ρ.locator, t) ∧
    t.store = ρ.store ∧ t.world = ρ.world
  read : (PageReader.text r.interactor ρ.locator ρ.world).1 = .ok ρ.text

namespace Resolver

variable {ι : Type} [PageReader ι] {r : Resolver ι}

omit [PageReader ι] in
/-- A locator that is looked up is that of the element it is looked up for. -/
theorem element_of_locatorStep {value : String → Lookup String}
    {locator : String → Lookup Locator} {element : String} {s t : State} {l : Locator}
    (h : r.locatorStep value locator element s = (.ok l, t)) : l.element = element := by
  obtain ⟨word, strategy, template, x, u, -, -, -, -, h⟩ := of_locatorStep_ok h
  rcases of_inContainer_ok h with ⟨-, -, rfl⟩ | ⟨container, -, hin⟩
  · rfl
  · rcases hin with ⟨-, -, rfl, -⟩ | ⟨-, around, -, rfl⟩
    · rfl
    · rfl

theorem element_of_locatorAt {room : Nat} {element : String} {s t : State} {l : Locator}
    (h : r.locatorAt room element s = (.ok l, t)) : l.element = element := by
  cases room with
  | zero => rw [locatorAt_zero] at h; cases h
  | succ room => rw [locatorAt_succ] at h; exact element_of_locatorStep h

/-- Lookups stay within bounds for which the world does not matter, if binding the address of the
page does and reading the text of an element does that has none. -/
theorem permits_of_world {B : Bounds State}
    (world : ∀ (s : State) w, B.done s { s with world := w })
    (url : ∀ (s : State) address,
      B.done s { s with store := s.store.set Key.currentUrl address })
    (text : ∀ {room : Nat} {name text : String} {l : Locator} {s t : State} {w : World},
      s.store.scan name = .ok none → r.locatorAt room name s = (.ok l, t) →
      PageReader.text r.interactor l t.world = (.ok text, w) →
      B.done s t → B.done s (t.hearing l w text)) : r.Permits B := by
  have within_world {ε α : Type} (a : World.Act ε α) : Act.Within B (State.inWorld a) :=
    .inPart (.any a) (fun s w _ => world s w) fun s w _ => Bounds.failed_of_done (world s w)
  refine ⟨?_, fun _ _ _ => .ite (.pure _) (.failingAs _ (within_world _)),
    fun _ _ => .failingAs _ (within_world _), ?_⟩
  · exact .bind (.ite (.pure _) (within_world _)) fun address => .modify fun s => url s address
  · intro room name l s t hscan _ hl hdone
    rw [liveText_run]
    split
    · exact .done hdone
    · rcases e : PageReader.text r.interactor l t.world with ⟨f | text', w⟩
      · exact .failed (B.after hdone (Bounds.failed_of_done (world t w)))
      · exact .done (text hscan hl e hdone)

/-- A text that is read where the locator was just looked up makes a genuine reading. -/
theorem genuine_of_located {room : Nat} {name text : String} {s t : State} {l : Locator}
    {w : World} (hl : r.locatorAt room name s = (.ok l, t))
    (hw : PageReader.text r.interactor l t.world = (.ok text, w)) :
    LiveReading.Genuine r ⟨l, t.store, t.world, text⟩ where
  located := ⟨room, s, t, by rw [element_of_locatorAt hl, hl], rfl, rfl⟩
  read := by rw [hw]

end Resolver

end Bindery
