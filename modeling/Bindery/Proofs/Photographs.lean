import Bindery.Proofs.Coherence
import Bindery.Proofs.Unseen

/-!
# Bindery — Proofs — Photographs

Which photographs are taken in a session, and that it does not matter whether they are.  An
interaction for an action that has a name is photographed once, if it succeeded
(`Interaction.subject`); nothing else is.  So what a move of a session is photographed as is told
from the interaction alone (`Session.photograph?`): not from how often it was tried, nor from how
the time after it passes.

The states of two sessions that take photographs by other means stay twins, and each of the two
shows the photographs that it takes before those that it showed already (`Session.took_play`).
-/

namespace Bindery

variable {α : Type} {here there : List Shot}

/-- The time of twins is the same, and they stay twins over a pause. -/
theorem State.synchronous_twins : Synchronous (State.Twins here there) where
  now h := World.synchronous_twins.now h.world
  origin h := World.synchronous_twins.origin h.world
  sleep pause _ _ h := h.setWorld (World.synchronous_twins.sleep pause h.world)

/-! ### The photograph of an interaction -/

/-- What an interaction is photographed as that ended so: the action on the element, if the action
has a name and succeeded. -/
def Interaction.subject {ε : Type} (action : Option String) (element : String) :
    Except ε α → Option Shot
  | .ok _ => action.map fun action => ⟨action, element⟩
  | .error _ => none

namespace Interactor

open Interaction

/-- Whether photographs are asked for: they are to be taken, and there is something to take them
with. -/
def captures (i : Interactor) : Bool := i.policy.captureScreenshots && i.camera ≠ .none

/-- The photographs that are asked for where these are to be taken. -/
def taken (i : Interactor) (shots : List Shot) : List Shot := if i.captures then shots else []

theorem taken_nil (i : Interactor) : i.taken [] = [] := ite_self []

theorem taken_append (i : Interactor) (before later : List Shot) :
    i.taken (before ++ later) = i.taken before ++ i.taken later := by
  unfold taken
  split <;> rfl

theorem photographed_eq_taken (i : Interactor) (action : Option String) (l : Locator)
    (r : Except InteractionFault α) (w : World) :
    photographed i action l r w =
      { w with shots := i.taken (subject action l.element r).toList ++ w.shots } := by
  cases r with
  | error e => rw [subject, Option.toList_none, taken_nil]; rfl
  | ok a =>
      cases action with
      | none => rw [subject, Option.map_none, Option.toList_none, taken_nil]; rfl
      | some action =>
          rw [photographed, capture, taken, captures]
          by_cases hon : i.policy.captureScreenshots = true ∧ i.camera ≠ .none
          · have hboth : (i.policy.captureScreenshots && i.camera ≠ .none) = true := by
              simpa using hon
            rw [if_pos hon, if_pos hboth]
            unfold photograph
            cases i.camera <;> rfl
          · have hneither : ¬ (i.policy.captureScreenshots && i.camera ≠ .none) = true := by
              simpa using hon
            rw [if_neg hon, if_neg hneither]
            rfl

/-- An interaction goes on alike whatever photographs are taken with, and each of them is taken at
its end. -/
theorem twins_withElement (i i' : Interactor) (action : Option String) (l : Locator)
    {deed : ElementId → World.Act InteractionFault α} (hdeed : ∀ id, World.Blind (deed id))
    {w v w' : World} (h : World.Twins here there w v) {r : Except InteractionFault α}
    (hrun : i.withElement action l deed w = (r, w')) :
    ∃ v', i'.withElement action l deed v = (r, v') ∧
      World.Twins (i.taken (subject action l.element r).toList ++ here)
        (i'.taken (subject action l.element r).toList ++ there) w' v' := by
  rw [withElement_photographed, photographed_eq_taken] at hrun
  rw [withElement_photographed, photographed_eq_taken]
  rcases hw : i.withElement none l deed w with ⟨r', w₁⟩
  obtain ⟨v₁, hv, hshots, htwins⟩ := (lockstep_withElement i i' l hdeed).run h hw
  rw [hw] at hrun
  rw [hv]
  cases hrun
  refine ⟨_, rfl, by rw [hshots], ?_⟩
  rw [htwins]

end Interactor

/-! ### The moves of a session -/

/-- One thing that happens in a session: an operation, a deed of the caller's own on an element,
which may have a name, a wait for a condition of the caller's own, or a change of the world from
outside. -/
inductive Move (α : Type) where
  | perform (op : Operation)
  | deed (action : Option String) (element : String)
      (act : ElementId → World.Act InteractionFault α)
  | wait (reason : Option String) (seconds : Nat) (condition : State.Act InteractionFault Bool)
  | outside (change : World → World)

/-- What comes from outside of the session neither looks at photographs nor takes any. -/
def Move.Blind : Move α → Prop
  | .perform _ => True
  | .deed _ _ act => ∀ id, World.Blind (act id)
  | .wait _ _ condition => State.Blind condition
  | .outside change => ∀ w shots, change { w with shots } = { change w with shots }

namespace Session

open Interaction (subject)

variable (x : Session)

/-- A move, and what it gives. -/
def play : Move α → Step (Answer ⊕ α)
  | .perform op => return .inl (← x.perform op)
  | .deed action element act => return .inr (← x.withElement action element act)
  | .wait reason seconds condition => do
    x.waitFor reason seconds condition
    return .inl .nothing
  | .outside change => do
    modify fun s => { s with world := change s.world }
    return .inl .nothing

/-- What an operation is photographed as: one that acts on an element and is not run dry, as its
interaction with the element. -/
def pictured? (s : State) (op : Operation) : Option Shot :=
  op.deed?.bind fun d =>
    if x.settings.dryRun then none
    else subject (some d.action) d.element (x.withElement (some d.action) d.element d.act s).1

/-- What a move is photographed as.  A deed of the caller's own, which is done in a dry run too, is
photographed if it has a name and succeeds. -/
def photograph? (s : State) : Move α → Option Shot
  | .perform op => x.pictured? s op
  | .deed action element act => subject action element (x.withElement action element act s).1
  | .wait .. | .outside _ => none

/-- The moves of a run, one after the other: what each of them gives, and the state after all. -/
def run : List (Move α) → State → List (Except StepFault (Answer ⊕ α)) × State
  | [], s => ([], s)
  | m :: moves, s =>
    let (r, t) := x.play m s
    let (rs, u) := run moves t
    (r :: rs, u)

/-- What the moves of a run are photographed as, in their order. -/
def photographs : List (Move α) → State → List Shot
  | [], _ => []
  | m :: moves, s => (x.photograph? s m).toList ++ photographs moves (x.play m s).2

/-! ### One move of two sessions -/

/-- The steps of two sessions ended alike, in twins, and each of the sessions took what it takes of
some photographs. -/
structure Took (x y : Session) (shots here there : List Shot)
    (out out' : Except StepFault α × State) : Prop where
  alike : out'.1 = out.1
  twins : State.Twins (x.resolver.interactor.taken shots ++ here)
    (y.resolver.interactor.taken shots ++ there) out.2 out'.2

namespace Took

variable {x y : Session} {s t : State}

theorem of_alike {a b : Step α} (hab : State.Alike here there a b)
    (h : State.Twins here there s t) : Took x y [] here there (a s) (b t) := by
  obtain ⟨hend, htwins⟩ := hab h
  refine ⟨hend, ?_⟩
  rwa [Interactor.taken_nil, Interactor.taken_nil]

/-- What comes after takes no photographs. -/
theorem bind {β : Type} {shots : List Shot} {a b : Step α} {f g : α → Step β}
    (h : Took x y shots here there (a s) (b t))
    (hfg : ∀ v here there, State.Alike here there (f v) (g v)) :
    Took x y shots here there ((a >>= f) s) ((b >>= g) t) := by
  obtain ⟨hend, htwins⟩ := h
  rcases ha : a s with ⟨e | v, s'⟩
  · have hb : b t = (.error e, (b t).2) := Prod.ext (hend.trans (by rw [ha])) rfl
    rw [Act.bind_run_error ha, Act.bind_run_error hb]
    rw [ha] at htwins
    exact ⟨rfl, htwins⟩
  · have hb : b t = (.ok v, (b t).2) := Prod.ext (hend.trans (by rw [ha])) rfl
    rw [Act.bind_run_ok ha, Act.bind_run_ok hb]
    rw [ha] at htwins
    obtain ⟨hend', htwins'⟩ := hfg v _ _ htwins
    exact ⟨hend', htwins'⟩

end Took

variable {x} {on : Bool} {camera : Camera} {s t : State}

theorem took_withElement (he : x.resolver.evaluators.Blind) (action : Option String)
    (element : String) {deed : ElementId → World.Act InteractionFault α}
    (hdeed : ∀ id, World.Blind (deed id)) (h : State.Twins here there s t) :
    Took x (x.photographing on camera)
      (subject action element (x.withElement action element deed s).1).toList here there
      (x.withElement action element deed s)
      ((x.photographing on camera).withElement action element deed t) := by
  have hlocator : State.Alike here there (x.resolver.locator element)
      ((x.photographing on camera).resolver.locator element) := Resolver.alike_locator he element
  unfold withElement
  rcases hl : x.resolver.locator element s with ⟨e | l, s₁⟩
  · obtain ⟨t₁, hl', h₁⟩ := hlocator.run h hl
    rw [resolving, resolving, Act.bind_run_error (Act.failingAs_run_error _ hl),
      Act.bind_run_error (Act.failingAs_run_error _ hl')]
    refine ⟨rfl, ?_⟩
    rwa [subject, Option.toList_none, Interactor.taken_nil, Interactor.taken_nil]
  · obtain ⟨t₁, hl', h₁⟩ := hlocator.run h hl
    rw [resolving, resolving, Act.bind_run_ok (Act.failingAs_run_ok _ hl),
      Act.bind_run_ok (Act.failingAs_run_ok _ hl'), interacting_run, interacting_run]
    rcases hd : x.resolver.interactor.withElement action l deed s₁.world with ⟨r, w⟩
    obtain ⟨v, hv, hw⟩ := Interactor.twins_withElement _
      (x.photographing on camera).resolver.interactor action l hdeed h₁.world hd
    have hsubject : subject action element (r.mapError StepFault.interaction) =
        subject action l.element r := by
      rw [Resolver.element_of_locatorAt hl]
      cases r <;> rfl
    rw [hv, hsubject]
    exact ⟨rfl, h₁.setWorld hw⟩

/-- Out of a dry run, acting on an element is a named deed, after which the time passes. -/
theorem act_eq_of_live (hlive : x.settings.dryRun = false) (element action value : String)
    (deed : ElementId → World.Act InteractionFault Unit) :
    x.act element action value deed = (do
      x.withElement (some action) element deed
      modify (invalidateText element)
      x.bindAndWait element action value) := by
  unfold act withElement
  simp only [hlive, Bool.not_false, if_true, bind_assoc]

/-- In a dry run, acting on an element is to look it up and to bind. -/
theorem act_eq_of_dry (hdry : x.settings.dryRun = true) (element action value : String)
    (deed : ElementId → World.Act InteractionFault Unit) :
    x.act element action value deed = (do
      let _ ← resolving (x.resolver.locator element)
      x.bindAndWait element action value) := by
  unfold act
  simp only [hdry, Bool.not_true, Bool.false_eq_true, if_false]

theorem took_perform (he : x.resolver.evaluators.Blind) (op : Operation)
    (h : State.Twins here there s t) :
    Took x (x.photographing on camera) (x.pictured? s op).toList here there (x.perform op s)
      ((x.photographing on camera).perform op t) := by
  unfold pictured?
  cases hop : op.deed? with
  | none => exact .of_alike (alike_perform he hop) h
  | some d =>
      rw [Operation.perform_of_deed? x hop, Operation.perform_of_deed? _ hop, Option.bind_some]
      refine .bind ?_ fun _ _ _ => .pure _
      by_cases hdry : x.settings.dryRun = true
      · have hdry' : (x.photographing on camera).settings.dryRun = true := hdry
        rw [if_pos hdry, act_eq_of_dry hdry, act_eq_of_dry hdry']
        exact .of_alike (.bind (.failingAs _ (Resolver.alike_locator he _)) fun _ =>
          alike_bindAndWait _ _ _) h
      · have hlive : x.settings.dryRun = false := Bool.eq_false_iff.2 hdry
        have hlive' : (x.photographing on camera).settings.dryRun = false := hlive
        rw [if_neg hdry, act_eq_of_live hlive, act_eq_of_live hlive']
        refine .bind (took_withElement he _ _ (Operation.blind_of_deed? hop) h) fun _ _ _ => ?_
        exact .bind (.modify fun _ _ h => twins_invalidateText h _) fun _ => alike_bindAndWait _ _ _

theorem alike_waitFor (reason : Option String) (seconds : Nat)
    {condition : State.Act InteractionFault Bool} (hcondition : State.Blind condition) :
    State.Alike here there (x.waitFor reason seconds condition)
      ((x.photographing on camera).waitFor reason seconds condition) := by
  refine .get fun s t hst => ?_
  rw [State.synchronous_twins.reading hst]
  exact .ite (.throw _)
    (.failingAs _ (Wait.lockstep_waitFor State.synchronous_twins _ _ _ (hcondition _ _)))

theorem took_play (he : x.resolver.evaluators.Blind) {m : Move α} (hm : m.Blind)
    (h : State.Twins here there s t) :
    Took x (x.photographing on camera) (x.photograph? s m).toList here there (x.play m s)
      ((x.photographing on camera).play m t) := by
  cases m with
  | perform op => exact .bind (took_perform he op h) fun _ _ _ => .pure _
  | deed action element act =>
      exact .bind (took_withElement he action element hm h) fun _ _ _ => .pure _
  | wait reason seconds condition =>
      exact .of_alike (.bind (alike_waitFor reason seconds hm) fun _ => .pure _) h
  | outside change =>
      have hchange {s t : State} (h : State.Twins here there s t) :
          State.Twins here there { s with world := change s.world }
            { t with world := change t.world } :=
        h.setWorld (World.blind_modify (ε := StepFault) hm here there h.world).2
      exact .of_alike (.bind (.modify fun _ _ h => hchange h) fun _ => .pure _) h

/-! ### Whole runs -/

/-- Runs from twins give the same and end in twins, and each of the sessions shows what it takes of
the photographs of the run, the latest first. -/
theorem twins_run (on : Bool) (camera : Camera) (he : x.resolver.evaluators.Blind)
    {moves : List (Move α)} (hmoves : ∀ m ∈ moves, m.Blind) (h : State.Twins here there s t) :
    ((x.photographing on camera).run moves t).1 = (x.run moves s).1 ∧
      State.Twins (x.resolver.interactor.taken (x.photographs moves s).reverse ++ here)
        ((x.photographing on camera).resolver.interactor.taken (x.photographs moves s).reverse ++
          there)
        (x.run moves s).2 ((x.photographing on camera).run moves t).2 := by
  induction moves generalizing here there s t with
  | nil =>
      rw [photographs, List.reverse_nil, Interactor.taken_nil, Interactor.taken_nil]
      exact ⟨rfl, h⟩
  | cons m moves ih =>
      obtain ⟨hm, hmoves⟩ := List.forall_mem_cons.1 hmoves
      have hplay : Took x (x.photographing on camera) _ here there _ _ := took_play he hm h
      obtain ⟨hend, htwins⟩ := hplay
      obtain ⟨hends, hrun⟩ := ih hmoves htwins
      have hone : (x.photograph? s m).toList.reverse = (x.photograph? s m).toList := by
        cases x.photograph? s m <;> rfl
      rw [photographs, List.reverse_append, Interactor.taken_append, Interactor.taken_append, hone,
        List.append_assoc, List.append_assoc]
      exact ⟨congrArg₂ List.cons hend hends, hrun⟩

/-- **Photographs are faithful and cannot interfere.**  Where photographs are to be taken and there
is something to take them with, those that a run takes are exactly the ones of its named
interactions that succeeded, in their order and one for each, whatever was tried again and however
the time after an action passed.  And whether photographs are to be taken, and what with, does not
matter: a run gives the same and ends in the same bindings and in the same world, photographs aside,
even if every photograph fails.  This is so for whatever neither looks at photographs nor takes any
by itself: evaluators, deeds and conditions of the caller's own, and changes from outside. -/
theorem photographs_faithful (x : Session) (he : x.resolver.evaluators.Blind)
    {moves : List (Move α)} (hmoves : ∀ m ∈ moves, m.Blind) (s : State) :
    (x.run moves s).2.world.shots =
        x.resolver.interactor.taken (x.photographs moves s).reverse ++ s.world.shots ∧
      ∀ (on : Bool) (camera : Camera),
        ((x.photographing on camera).run moves s).1 = (x.run moves s).1 ∧
        ((x.photographing on camera).run moves s).2.store = (x.run moves s).2.store ∧
        ((x.photographing on camera).run moves s).2.liveReads = (x.run moves s).2.liveReads ∧
        ∃ shots, ((x.photographing on camera).run moves s).2.world =
          { (x.run moves s).2.world with shots } := by
  have hrun (on : Bool) (camera : Camera) := twins_run on camera he hmoves (State.Twins.refl s)
  refine ⟨(hrun false .none).2.world.1, fun on camera => ?_⟩
  obtain ⟨hresults, htwins⟩ := hrun on camera
  exact ⟨hresults, htwins.store, htwins.liveReads, _, htwins.world.2⟩

/-- A session with photographs of what is done. -/
def photographer (camera : Camera) : Session :=
  ofSettings { Settings.standard with captureScreenshots := true } Evaluators.standard
    (fun _ => none) camera

/-- The note is clicked on, which fails at first, and its text is read; it is looked at in the
caller's own way; and an element is clicked on that is not there. -/
def noteMoves : List (Move String) :=
  [.outside fun w => { w with browser := w.browser.apply (.failNext .click (.stale "gone")) },
    .perform (.click "note"), .perform (.value "note"),
    .deed (some "inspect") "note" fun id => World.browse (Browser.tagName id),
    .perform (.click "ghost")]

/-- The pause after a click on the note is no number. -/
def noteStart : State :=
  begin ⟨[], [("note/locator", "id"), ("note/locator/id", "n"), ("note/click/wait", "soon")]⟩
    noteWorld

/-- The click is photographed once, though it was tried twice and ended in the time after it, and so
is the caller's own deed.  Without a camera the moves give the same. -/
theorem note_photographed :
    (photographer .working).resolver.evaluators.Blind ∧ (∀ m ∈ noteMoves, m.Blind) ∧
      ((photographer .working).run noteMoves noteStart).2.world.shots =
        [⟨"inspect", "note"⟩, ⟨"click", "note"⟩] ∧
      ((photographer .none).run noteMoves noteStart).1 =
        ((photographer .working).run noteMoves noteStart).1 := by
  have hmoves : ∀ m ∈ noteMoves, m.Blind :=
    List.forall_mem_cons.2 ⟨fun _ _ => rfl, List.forall_mem_cons.2 ⟨trivial,
      List.forall_mem_cons.2 ⟨trivial, List.forall_mem_cons.2 ⟨fun _ => World.blind_browse _,
        List.forall_mem_singleton.2 trivial⟩⟩⟩⟩
  have hshots : (photographer .working).photographs noteMoves noteStart =
      [⟨"click", "note"⟩, ⟨"inspect", "note"⟩] := by decide +kernel
  have hdark : (photographer .working).photographing true .none = photographer .none :=
    photographing_ofSettings ..
  obtain ⟨hlog, hsame⟩ :=
    photographs_faithful (photographer .working) Evaluators.blind_standard hmoves noteStart
  refine ⟨Evaluators.blind_standard, hmoves, ?_, hdark ▸ (hsame true .none).1⟩
  rw [hlog, hshots]
  rfl

end Session

end Bindery
