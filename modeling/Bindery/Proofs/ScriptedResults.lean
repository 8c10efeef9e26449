import Bindery.Proofs.FailedCalls

/-!
# Bindery — Proofs — Scripted results

What scripts answer in a browser to which anything has happened.  Results are registered for scripts
in which a fragment occurs; a script that does not fail is answered by the first registration that
is for it (`answering?`), and is counted for that one and for no other (`scriptCalls`, `given`).

Each rule of a browser is its registration without the results that were given
(`Registration.ruleAfter`), as many as calls were counted for it (`Told.rules`).  So the results of
a registration are given in their order, and the last one again and again after them.
-/

namespace Bindery.Browser

/-- Results that were registered for scripts in which a fragment occurs. -/
structure Registration where
  fragment : String
  results : List Json

namespace Registration

/-- The result that a call gets, counted from one: one result after the other, and the last one from
then on; null if there is none. -/
def result (g : Registration) (n : Nat) : Json :=
  (g.results[min n g.results.length - 1]?).getD .null

/-- The rule that is left of a registration after some of its results were given. -/
def ruleAfter (g : Registration) (given : Nat) : ScriptRule :=
  ⟨g.fragment, (ScriptRule.waiting g.results).drop given, g.results.getLast?.getD .null⟩

theorem next_ruleAfter (g : Registration) (given : Nat) :
    (g.ruleAfter given).next = (g.result (given + 1), g.ruleAfter (given + 1)) := by
  unfold ruleAfter ScriptRule.next ScriptRule.waiting result
  by_cases hone : g.results.length = 1
  · -- the only result does not wait: it is the last one, given again and again
    have hplace : min (given + 1) g.results.length - 1 = g.results.length - 1 := by omega
    rw [if_pos hone, List.drop_nil, List.drop_nil, hplace, List.getLast?_eq_getElem?]
  · rw [if_neg hone]
    by_cases h : given < g.results.length
    · have hplace : min (given + 1) g.results.length - 1 = given := by omega
      rw [List.drop_eq_getElem_cons h, hplace, List.getElem?_eq_getElem h]
      rfl
    · have hplace : min (given + 1) g.results.length - 1 = g.results.length - 1 := by omega
      rw [List.drop_eq_nil_of_le (by omega), List.drop_eq_nil_of_le (by omega), hplace,
        List.getLast?_eq_getElem?]

end Registration

/-! ### What happened -/

/-- The results that were registered, in the order of the registrations. -/
def registered (events : List Event) : List Registration :=
  events.filterMap fun
    | .change (.onScript fragment results) => some ⟨fragment, results⟩
    | _ => none

/-- The place of the first registration that is for a script. -/
def answering? (registrations : List Registration) (script : String) : Option Nat :=
  registrations.findIdx? fun g => Text.contains script g.fragment

/-- A script that was run, and the place of the registration that answered it. -/
structure ScriptCall where
  script : String
  args : List ScriptArgument
  place? : Option Nat

/-- The script that an event runs after others have happened, unless it fails. -/
def scriptCall? (before : List Event) : Event → Option ScriptCall
  | .request (.executeScript script args) =>
    match (executeScript script args (opened.afterEvents before)).1 with
    | .ok _ => some ⟨script, args, answering? (registered before) script⟩
    | .error _ => none
  | _ => none

/-- The scripts that events run after others have happened, in their order, without those that
fail. -/
def scriptCallsFrom (before : List Event) : List Event → List ScriptCall
  | [] => []
  | event :: rest => (scriptCall? before event).toList ++ scriptCallsFrom (before ++ [event]) rest

/-- The scripts that were run, in their order, without those that failed. -/
def scriptCalls (events : List Event) : List ScriptCall := scriptCallsFrom [] events

/-- How many scripts the registration at a place has answered. -/
def given (events : List Event) (place : Nat) : Nat :=
  (scriptCalls events).countP fun c => c.place? = some place

/-! ### One script -/

/-- What registrations answer of which so many results were given: the next result of the first one
that is for the script, or null if none is. -/
def answerOf (registrations : List Registration) (given : Nat → Nat) (script : String) : Json :=
  match answering? registrations script with
  | some place => (registrations[place]?.map fun g => g.result (given place + 1)).getD .null
  | none => .null

/-- The rules that are left of registrations of which so many results were given. -/
def rulesOf (registrations : List Registration) (given : Nat → Nat) : List ScriptRule :=
  registrations.mapIdx fun place g => g.ruleAfter (given place)

/-- A script takes one result of the first registration that is for it, and none of any other. -/
theorem answerScript_rulesOf (script : String) (registrations : List Registration)
    (given : Nat → Nat) :
    answerScript script (rulesOf registrations given) =
      (answerOf registrations given script, rulesOf registrations fun place =>
        given place + if answering? registrations script = some place then 1 else 0) := by
  induction registrations generalizing given with
  | nil => rfl
  | cons g rest ih =>
      have hrules (given : Nat → Nat) : rulesOf (g :: rest) given =
          g.ruleAfter (given 0) :: rulesOf rest fun place => given (place + 1) :=
        List.mapIdx_cons
      have hplace : answering? (g :: rest) script = if Text.contains script g.fragment then some 0
          else (answering? rest script).map (· + 1) :=
        List.findIdx?_cons
      rw [hrules, hrules, answerScript, answerOf, hplace]
      by_cases hg : Text.contains script g.fragment = true
      · -- the first registration answers, and the others are left as they are
        have hfirst : Text.contains script (g.ruleAfter (given 0)).fragment = true := hg
        rw [if_pos hfirst, g.next_ruleAfter, if_pos hg]
        simp
      · have hfirst : ¬ Text.contains script (g.ruleAfter (given 0)).fragment = true := hg
        rw [if_neg hfirst, ih, if_neg hg, answerOf]
        cases answering? rest script with
        | none => simp
        | some place => simp

/-! ### One event -/

theorem executeScript_run (script : String) (args : List ScriptArgument) (b : Browser) :
    executeScript script args b = match takeFailure .executeScript b.failures with
      | some (f, left) =>
        (.error f, { b with calls := .executeScript :: b.calls, failures := left })
      | none => (.ok (answerScript script b.rules).1, { b with
          calls := .executeScript :: b.calls
          scripts := (script, args) :: b.scripts
          rules := (answerScript script b.rules).2 }) := by
  rw [executeScript, Act.bind_run, enter_run]
  rcases takeFailure .executeScript b.failures with _ | ⟨f, left⟩ <;> rfl

/-- A script fails with the oldest failure that is queued for scripts, and only then. -/
theorem executeScript_result (script : String) (args : List ScriptArgument) (b : Browser) :
    (executeScript script args b).1 = match (b.queued .executeScript).head? with
      | some f => .error f
      | none => .ok (answerScript script b.rules).1 := by
  rw [executeScript_run]
  rcases htake : takeFailure .executeScript b.failures with _ | ⟨f, left⟩
  · rw [queued, faultsOf_of_takeFailure_none htake]
    rfl
  · rw [queued, faultsOf_of_takeFailure htake]
    rfl

/-- Two browsers have the same rules for scripts and have run the same ones. -/
structure SameScripts (b b' : Browser) : Prop where
  rules : b'.rules = b.rules
  scripts : b'.scripts = b.scripts

theorem sameScripts_of_enter {α : Type} {op : BrowserOp} {a : Act α}
    (ha : ∀ b, SameScripts b (a b).2) (b : Browser) :
    SameScripts b (ending (enter op >>= fun _ => a) b).2 := by
  rw [ending]
  rcases htake : takeFailure op b.failures with _ | ⟨f, left⟩
  · have hend := ha { b with calls := op :: b.calls }
    rw [Act.bind_run, enter_run, htake]
    simp only
    rcases hrun : a { b with calls := op :: b.calls } with ⟨f | x, b'⟩
    all_goals
      rw [hrun] at hend
      exact ⟨hend.rules, hend.scripts⟩
  · rw [Act.bind_run, enter_run, htake]
    exact ⟨rfl, rfl⟩

theorem sameScripts_onElement {α : Type} (op : BrowserOp) (id : ElementId)
    (f : PageElement.Act α) (b : Browser) : SameScripts b (ending (onElement op id f) b).2 := by
  unfold onElement
  refine sameScripts_of_enter (fun b => ?_) b
  rw [Act.bind_run_ok (Act.get_run b)]
  cases (b.element? id).filter fun e => !e.removed with
  | none => exact ⟨rfl, rfl⟩
  | some e =>
      exact ⟨rfl, rfl⟩

theorem sameScripts_findElement (strategy : Strategy) (expression : String)
    (within : Option ElementId) (b : Browser) :
    SameScripts b (ending (findElement strategy expression within) b).2 := by
  unfold findElement
  refine sameScripts_of_enter (fun b => ?_) b
  rw [Act.bind_run_ok (Act.get_run b)]
  cases b.elements.find? fun e => e.isFoundBy strategy expression within <;> exact ⟨rfl, rfl⟩

/-- No other request is about scripts. -/
theorem sameScripts_request {r : Request} (h : r.op ≠ .executeScript) (b : Browser) :
    SameScripts b (r.run b).2 := by
  have readElement {α : Type} (op : BrowserOp) (id : ElementId) (f : PageElement → α) :
      SameScripts b (ending (readElement op id f) b).2 := sameScripts_onElement op id _ b
  cases r with
  | executeScript => exact absurd rfl h
  | findElement => exact sameScripts_findElement _ _ _ b
  | currentWindow | switchToWindow | switchToFrame | currentUrl | navigateTo =>
      refine sameScripts_of_enter (fun b => ?_) b
      exact ⟨rfl, rfl⟩
  | sendKeys | clear | click | selectOption => exact sameScripts_onElement _ _ _ b
  | _ => exact readElement _ _ _

/-! ### All events -/

theorem scriptCallsFrom_append (before events : List Event) (event : Event) :
    scriptCallsFrom before (events ++ [event]) =
      scriptCallsFrom before events ++ (scriptCall? (before ++ events) event).toList := by
  induction events generalizing before with
  | nil => simp [scriptCallsFrom]
  | cons e rest ih =>
      rw [List.cons_append, scriptCallsFrom, ih, scriptCallsFrom, List.append_assoc,
        List.append_assoc, List.singleton_append]

theorem scriptCalls_append (events : List Event) (event : Event) :
    scriptCalls (events ++ [event]) = scriptCalls events ++ (scriptCall? events event).toList :=
  scriptCallsFrom_append [] events event

theorem registered_append (events : List Event) (event : Event) :
    registered (events ++ [event]) = registered events ++ registered [event] :=
  List.filterMap_append

theorem afterEvents_append (events : List Event) (event : Event) :
    opened.afterEvents (events ++ [event]) = event.after (opened.afterEvents events) :=
  List.foldl_append

/-- What the log and the rules of a browser say of what has happened to it. -/
structure Told (events : List Event) : Prop where
  /-- Each rule has lost as many results as its registration has given. -/
  rules : (opened.afterEvents events).rules = rulesOf (registered events) (given events)
  /-- The scripts in the log are those that were run. -/
  scripts : (opened.afterEvents events).scripts.reverse =
    (scriptCalls events).map fun c => (c.script, c.args)
  /-- Only what was registered has answered. -/
  places : ∀ c ∈ scriptCalls events, ∀ place ∈ c.place?, place < (registered events).length

theorem given_append (events : List Event) (event : Event) (place : Nat) :
    given (events ++ [event]) place = given events place +
      (scriptCall? events event).toList.countP fun c => c.place? = some place := by
  rw [given, scriptCalls_append, List.countP_append, given]

theorem registered_concat_of_ne {event : Event}
    (h : ∀ fragment results, event ≠ .change (.onScript fragment results)) (events : List Event) :
    registered (events ++ [event]) = registered events := by
  rw [registered_append]
  cases event with
  | request r => exact List.append_nil _
  | change c =>
      cases c with
      | onScript fragment results => exact absurd rfl (h fragment results)
      | _ => exact List.append_nil _

/-- What happens beside scripts is of no concern to them. -/
theorem Told.beside {events : List Event} (h : Told events) {event : Event}
    (hregistered : registered (events ++ [event]) = registered events)
    (hcall : scriptCall? events event = none)
    (hsame : SameScripts (opened.afterEvents events) (event.after (opened.afterEvents events))) :
    Told (events ++ [event]) := by
  have hcalls : scriptCalls (events ++ [event]) = scriptCalls events := by
    rw [scriptCalls_append, hcall]
    exact List.append_nil _
  have hgiven : given (events ++ [event]) = given events := by
    funext place
    rw [given, hcalls, given]
  refine ⟨?_, ?_, ?_⟩
  · rw [afterEvents_append, hsame.rules, h.rules, hregistered, hgiven]
  · rw [afterEvents_append, hsame.scripts, h.scripts, hcalls]
  · rw [hcalls, hregistered]
    exact h.places

/-- Of what is registered nothing was given yet. -/
theorem Told.registering {events : List Event} (h : Told events) (fragment : String)
    (results : List Json) : Told (events ++ [.change (.onScript fragment results)]) := by
  have hregistered : registered (events ++ [.change (.onScript fragment results)]) =
      registered events ++ [⟨fragment, results⟩] := registered_append events _
  have hcalls : scriptCalls (events ++ [.change (.onScript fragment results)]) =
      scriptCalls events := (scriptCalls_append events _).trans (List.append_nil _)
  have hgiven : given (events ++ [.change (.onScript fragment results)]) = given events := by
    funext place
    rw [given, hcalls, given]
  have hnone : given events (registered events).length = 0 := by
    refine List.countP_eq_zero.2 fun c hc hplace => ?_
    exact absurd (h.places c hc _ (by simpa using hplace)) (Nat.lt_irrefl _)
  refine ⟨?_, ?_, ?_⟩
  · rw [afterEvents_append, hregistered, hgiven, rulesOf, List.mapIdx_concat, hnone]
    show (opened.afterEvents events).rules ++ [ScriptRule.ofResults fragment results] = _
    rw [h.rules]
    rfl
  · rw [afterEvents_append, hcalls]
    exact h.scripts
  · rw [hcalls, hregistered, List.length_append]
    exact fun c hc place hplace => Nat.lt_of_lt_of_le (h.places c hc place hplace) (by simp)

/-- A script that is run is counted for the registration that answers it. -/
theorem Told.running {events : List Event} (h : Told events) (script : String)
    (args : List ScriptArgument) : Told (events ++ [.request (.executeScript script args)]) := by
  have hregistered : registered (events ++ [.request (.executeScript script args)]) =
      registered events := registered_concat_of_ne (fun _ _ => by simp) events
  have hrun := executeScript_run script args (opened.afterEvents events)
  have hafter : Event.after (.request (.executeScript script args)) (opened.afterEvents events) =
      (executeScript script args (opened.afterEvents events)).2 := by
    show (ending _ _).2 = _
    rw [ending]
    rcases executeScript script args (opened.afterEvents events) with ⟨f | v, b⟩ <;> rfl
  rcases htake : takeFailure .executeScript (opened.afterEvents events).failures with
    _ | ⟨f, left⟩
  · rw [htake] at hrun
    have hcall : scriptCall? events (.request (.executeScript script args)) =
        some ⟨script, args, answering? (registered events) script⟩ := by
      simp only [scriptCall?, hrun]
    have hgiven : given (events ++ [.request (.executeScript script args)]) = fun place =>
        given events place +
          if answering? (registered events) script = some place then 1 else 0 := by
      funext place
      rw [given_append, hcall]
      simp [List.countP_cons]
    refine ⟨?_, ?_, ?_⟩
    · rw [afterEvents_append, hafter, hrun, hregistered, hgiven, h.rules, answerScript_rulesOf]
    · rw [afterEvents_append, hafter, hrun, scriptCalls_append, hcall, List.map_append, ← h.scripts]
      exact List.reverse_cons
    · rw [scriptCalls_append, hcall, hregistered]
      refine List.forall_mem_append.2 ⟨h.places, List.forall_mem_singleton.2 fun place hplace => ?_⟩
      exact (List.findIdx?_eq_some_iff_findIdx_eq.1 hplace).1
  · -- a script that fails is answered by nothing
    rw [htake] at hrun
    refine h.beside hregistered (by simp only [scriptCall?, hrun]) ?_
    rw [hafter, hrun]
    exact ⟨rfl, rfl⟩

/-- Whatever happens, the log and the rules tell of it. -/
theorem told_events (events : List Event) : Told events := by
  induction events using List.reverseRecOn with
  | nil => exact ⟨rfl, rfl, by simp [scriptCalls, scriptCallsFrom]⟩
  | append_singleton events event ih =>
      cases event with
      | request r =>
          by_cases hop : r.op = .executeScript
          · cases r <;> cases hop
            exact ih.running _ _
          · refine ih.beside (registered_concat_of_ne (by simp) events) ?_
              (sameScripts_request hop _)
            cases r with
            | executeScript => exact absurd rfl hop
            | _ => rfl
      | change c =>
          cases c with
          | onScript fragment results => exact ih.registering fragment results
          | _ => exact ih.beside (registered_concat_of_ne (by simp) events) rfl ⟨rfl, rfl⟩

/-- **Scripted results are delivered in order.**  Whatever has happened to a browser since it was
opened, a script fails with the oldest failure that is queued for scripts, if there is one.  If
there is none it is answered by the first registration whose fragment occurs in it, and with null
if there is no such one: the first script that a registration answers gets the first of its
results, the second one the second, and so on, and the last result again when there are no more;
scripts that failed, and those that other registrations answered, do not count.  The log has the
scripts that did not fail, in their order. -/
theorem scripted_results_in_order (events : List Event) (script : String)
    (args : List ScriptArgument) :
    (executeScript script args (opened.afterEvents events)).1 =
        (match ((opened.afterEvents events).queued .executeScript).head? with
          | some f => .error f
          | none => .ok (answerOf (registered events) (given events) script)) ∧
      (opened.afterEvents events).scripts.reverse =
        (scriptCalls events).map fun c => (c.script, c.args) := by
  have h := told_events events
  refine ⟨?_, h.scripts⟩
  rw [executeScript_result, h.rules, answerScript_rulesOf]

end Bindery.Browser
