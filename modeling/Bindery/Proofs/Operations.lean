import Bindery.Proofs.Bindings
import Bindery.Proofs.Reading
import Bindery.Proofs.Steps

/-!
# Bindery — Proofs — Operations

What operations do to the bindings.  Most of them leave the scopes as they are: they look names up,
bind a few keys in the innermost scope (`Operation.keys`), and forget what was read.  Bounds for
which the world does not matter and that allow for this are kept by all of these operations
(`Session.Admits.within_perform`), so a theorem about every operation is left with those that change
which scopes there are, or bind in another scope (`Operation.Rescopes`).

Seven of the operations act on an element.  They differ in what they do to it and in what they
bind then (`Operation.deed?`), and not in how they go about it (`perform_of_deed?`).
-/

namespace Bindery

/-! ### Operations that act on an element -/

/-- Something done to an element: the action it is bound as, the value it is bound to, and what is
done. -/
structure Deed where
  element : String
  action : String
  value : String
  act : ElementId → World.Act InteractionFault Unit

/-- Where the value of the action is bound. -/
def Deed.key (d : Deed) : String := Key.action d.element d.action

namespace Operation

/-- What an operation does to an element, if it is one that acts on an element. -/
def deed? : Operation → Option Deed
  | .sendKeys element text clearFirst sendEnter =>
    some ⟨element, "type", text, Interaction.typeText text clearFirst sendEnter⟩
  | .clearText element =>
    some ⟨element, "clear", "true", fun id => World.browse (Browser.clear id)⟩
  | .click element => some ⟨element, "click", "true", fun id => World.browse (Browser.click id)⟩
  | .submit element => some ⟨element, "submit", "true", fun id => World.browse (Browser.submit id)⟩
  | .check element => some ⟨element, "check", "true", Interaction.setChecked true⟩
  | .uncheck element => some ⟨element, "uncheck", "true", Interaction.setChecked false⟩
  | .select element choice =>
    some ⟨element, "select", choice.bound, fun id => World.browse (Browser.selectOption id choice)⟩
  | _ => none

variable {op : Operation} {d : Deed}

theorem perform_of_deed? (x : Session) (h : op.deed? = some d) :
    x.perform op = Session.quietly (x.act d.element d.action d.value d.act) := by
  cases op <;> cases h <;> rfl

/-- What is done to an element is not bound where a text is. -/
theorem key_ne_text (h : op.deed? = some d) (name : String) : d.key ≠ Key.text name := by
  cases op <;> cases h <;> dsimp only [Deed.key] <;>
    exact Key.action_ne_text (by decide) (by decide) _ name

/-! ### What an operation binds -/

/-- The keys that an operation binds in the innermost scope, those of its lookups aside. -/
def keys : Operation → List String
  | .bind key _ => [key]
  | .bindAndWait element action _ => [Key.action element action]
  | .selection name facet => [Key.selection name facet]
  | op => (op.deed?.map Deed.key).toList

theorem keys_of_deed? (h : op.deed? = some d) : op.keys = [d.key] := by
  cases op <;> cases h <;> rfl

/-- Whether an operation may change which scopes there are, empty one, or bind in another one than
the innermost. -/
def Rescopes : Operation → Prop
  | .bindIn .. | .beginFeature _ | .endFeature | .resetPage | .navigate _ => True
  | _ => False

end Operation

/-! ### Operations that leave the scopes -/

namespace Session

variable {x : Session} {B : Bounds State} {free outdated : String → Prop}

/-- Outdating an element is to forget what was read and to empty its text. -/
theorem done_invalidateText (hforget : ∀ s : State, B.done s s.forgetLiveText) {element : String}
    (hset : ∀ s : State, B.done s { s with store := s.store.set (Key.text element) "" })
    (s : State) : B.done s (invalidateText element s) := by
  unfold invalidateText
  simp only
  split
  · exact hforget s
  · exact hforget s
  · exact B.trans (hforget s) (hset _)

/-- Bounds for which the world does not matter, and that allow for lookups, for the setting of keys
that are free in the innermost scope, and for the outdating of some elements. -/
structure Admits (x : Session) (free outdated : String → Prop) (B : Bounds State) : Prop where
  lookups : x.resolver.Permits B
  world : ∀ (s : State) (w : World), B.done s { s with world := w }
  set : ∀ (s : State) (key value : String), free key →
    B.done s { s with store := s.store.set key value }
  outdate : ∀ (s : State) (element : String), outdated element → B.done s (invalidateText element s)

namespace Admits

theorem within_inWorld (h : x.Admits free outdated B) {ε α : Type} (a : World.Act ε α) :
    Act.Within B (State.inWorld a) :=
  .inPart (.any a) (fun s w _ => h.world s w) fun s w _ => Bounds.failed_of_done (h.world s w)

theorem within_bindAndWait (h : x.Admits free outdated B) {element action value : String}
    (hfree : free (Key.action element action)) :
    Act.Within B (x.bindAndWait element action value) :=
  Session.within_bindAndWait (fun s => h.set s _ value hfree) (fun _ => h.within_inWorld _)
    fun _ _ => h.within_inWorld _

theorem within_deed (h : x.Admits free outdated B) {d : Deed} (helement : outdated d.element)
    (hkey : free d.key) : Act.Within B (x.act d.element d.action d.value d.act) :=
  within_act (h.lookups.within_locator _) (fun _ => h.within_inWorld _)
    (fun s => h.outdate s _ helement) (h.within_bindAndWait hkey)

/-- Operations that leave the scopes and bind free keys only stay within bounds. -/
theorem within_perform (h : x.Admits free outdated B) {op : Operation} (hop : ¬ op.Rescopes)
    (hkeys : ∀ key ∈ op.keys, free key) (helement : ∀ d, op.deed? = some d → outdated d.element) :
    Act.Within B (x.perform op) := by
  have located {α : Type} (element : String) (inDryRun : α)
      {deed : Locator → World.Act InteractionFault α} :
      Act.Within B (x.withLocated element inDryRun deed) :=
    within_withLocated (h.lookups.within_locator element) fun _ => h.within_inWorld _
  cases hdeed : op.deed? with
  | some d =>
      rw [Operation.perform_of_deed? x hdeed]
      rw [Operation.keys_of_deed? hdeed, List.forall_mem_singleton] at hkeys
      exact within_quietly (h.within_deed (helement d hdeed) hkeys)
  | none =>
      cases op with
      | bindIn | beginFeature | endFeature | resetPage | navigate => exact absurd trivial hop
      | bind key value =>
          exact within_quietly
            (.modify fun s => h.set s key value (hkeys key (by simp [Operation.keys])))
      | locator element =>
          exact .bind (within_resolving (h.lookups.within_locator element)) fun _ => .pure _
      | value name => exact within_saying (h.lookups.within_value name)
      | reference name => exact within_saying (h.lookups.within_referenceValue name)
      | interpolate template => exact within_saying (h.lookups.within_interpolate template)
      | selection name facet =>
          exact within_saying (Resolver.within_selection (h.lookups.within_locator name)
            (fun _ => h.within_inWorld _)
            fun v => .modify fun s => h.set s _ v (hkeys _ (by simp [Operation.keys])))
      | bindAndWait element action value =>
          exact within_quietly (h.within_bindAndWait (hkeys _ (by simp [Operation.keys])))
      | moveTo element => exact within_quietly (located _ _)
      | highlight element => exact within_quietly (located _ _)
      | isInState element state => exact .bind (located _ _) fun _ => .pure _
      | awaitState element state => exact within_quietly (located _ _)
      | awaitText element => exact within_quietly (located _ _)
      | runScript script =>
          exact .bind (within_runScript (h.lookups.within_interpolate script)
            fun _ => h.within_inWorld _) fun _ => .pure _
      | _ => cases hdeed

/-- Going to an address stays within bounds if emptying the page scope does. -/
theorem within_navigate (h : x.Admits free outdated B) (hreset : Act.Within B resetPage)
    (url : String) : Act.Within B (x.perform (.navigate url)) :=
  within_quietly (Session.within_navigate (h.lookups.within_interpolate url)
    (fun _ => h.within_inWorld _) hreset)

end Admits

/-- What holds of bindings whatever key is set in them is kept by all that leaves the scopes. -/
theorem admits_of_set {P : ScopeStack → Prop}
    (hset : ∀ store key value, P store → P (ScopeStack.set key value store)) :
    x.Admits (fun _ => True) (fun _ => True) (.keeping fun s => P s.store) where
  lookups := Resolver.permits_of_world (fun _ _ h => h) (fun _ address h => hset _ _ address h)
    fun {_ _ text l _ _ _} _ _ _ hdone h => hset _ (Key.text l.element) text (hdone h)
  world _ _ h := h
  set _ key value _ h := hset _ key value h
  outdate s element _ :=
    done_invalidateText (fun s h => Resolver.foldl_forget hset s.liveReads h)
      (fun _ h => hset _ (Key.text element) "" h) s

end Session

end Bindery
