import Bindery.Proofs.Drift

/-!
# Bindery — Proofs — Expressions

When the expression of a locator is empty.  The one that is bound for an element never is: where it
is missing or blank that is what is reported, for the element itself as for the containers that are
looked up on the way (`Visits`).  What it comes to when its references are filled in is not looked
at again, so it may be empty where every part of it is: it refers to some name, and each name it
refers to has a blank value (`expressions_from_values`).
-/

namespace Bindery

open Locator (Link)
open Template (Segment)

namespace Text

theorem blank_append (a b : String) : blank (a ++ b) = (blank a && blank b) := by
  simp [blank]

/-- Texts in a row are blank when each of them is. -/
theorem blank_join (pieces : List String) :
    blank (String.join pieces) = pieces.all blank := by
  induction pieces with
  | nil => rfl
  | cons p rest ih => rw [String.join_cons, blank_append, ih, List.all_cons]

end Text

namespace ScopeStack

/-- A word that is bound is not blank. -/
theorem trim_ne_empty_of_findWord? {σ : ScopeStack} {key word : String}
    (h : σ.findWord? key = some word) : Text.trim word ≠ "" := by
  obtain ⟨hfind, hne⟩ := Option.filter_eq_some_iff.1 h
  obtain ⟨v, -, rfl⟩ := Option.map_eq_some_iff.1 hfind
  rw [Ne, Text.trim_eq_empty_iff, Text.blank_trim_iff]
  simpa using hne

/-- An element lacks the key of its strategy, or that of the expression for its strategy. -/
inductive Lacks (σ : ScopeStack) (element : String) : String → Prop where
  | locator : σ.findWord? (Key.locator element) = none → Lacks σ element (Key.locator element)
  | expression {word : String} {strategy : Strategy} :
      σ.findWord? (Key.locator element) = some word → Strategy.read word = .ok strategy →
      σ.findWord? (Key.expression element word) = none →
      Lacks σ element (Key.expression element word)

end ScopeStack

namespace Resolver

variable {ι : Type} [PageReader ι] {r : Resolver ι} {s t u : State}

/-! ### Expanding a template -/

/-- What a segment of a template comes to, with so much room below it: a text and a placeholder stay
as they are, and for any other reference stands what is given when it is looked up, in some state
that lookups made of `s`. -/
inductive Piece (r : Resolver ι) (room : Nat) (s : State) : Segment → String → Prop where
  | text (a : String) : Piece r room s (.text a) a
  | placeholder {name : String} : Template.isPlaceholder name = true →
      Piece r room s (.reference name) (Segment.reference name).write
  | value {name v : String} {t u : State} : Template.isPlaceholder name = false →
      r.Frames s t → r.inner room name t = (.ok v, u) → Piece r room s (.reference name) v

theorem frames_inner {room : Nat} {name v : String} (hs : r.Frames s t)
    (h : r.inner room name t = (.ok v, u)) : r.Frames s u :=
  hs.trans (frames_of_within (permits_frame.within_inner room name) h)

/-- What a template comes to is what its segments come to, one after the other. -/
theorem pieces_of_expand {room : Nat} {segments : List Segment} {x : String} (hs : r.Frames s t)
    (h : expand (r.inner room) segments t = (.ok x, u)) :
    r.Frames s u ∧
      ∃ pieces, List.Forall₂ (r.Piece room s) segments pieces ∧ x = String.join pieces := by
  induction segments generalizing t x with
  | nil =>
      cases h
      exact ⟨hs, [], .nil, rfl⟩
  | cons segment rest ih =>
      cases segment with
      | text a =>
          obtain ⟨y, t₁, hrest, h⟩ := Act.of_bind_ok h
          cases h
          obtain ⟨hu, pieces, hpieces, rfl⟩ := ih hs hrest
          exact ⟨hu, a :: pieces, .cons (.text a) hpieces, String.join_cons.symm⟩
      | reference name =>
          rw [expand] at h
          split at h
          next hname =>
            obtain ⟨y, t₁, hrest, h⟩ := Act.of_bind_ok h
            cases h
            obtain ⟨hu, pieces, hpieces, rfl⟩ := ih hs hrest
            exact ⟨hu, _, .cons (.placeholder hname) hpieces, String.join_cons.symm⟩
          next hname =>
            obtain ⟨v, t₁, hv, h⟩ := Act.of_bind_ok h
            obtain ⟨y, t₂, hrest, h⟩ := Act.of_bind_ok h
            cases h
            obtain ⟨hu, pieces, hpieces, rfl⟩ := ih (frames_inner hs hv) hrest
            exact ⟨hu, _, .cons (.value (by simpa using hname) hs hv) hpieces,
              String.join_cons.symm⟩

/-- Segments that refer to no name come to the template they were written in. -/
theorem join_of_names_nil {room : Nat} {segments : List Segment} {pieces : List String}
    (h : List.Forall₂ (r.Piece room s) segments pieces) (hnames : Template.names segments = []) :
    String.join pieces = Template.write segments := by
  induction h with
  | nil => rfl
  | cons hpiece _ ih =>
      rw [String.join_cons, Template.write, List.map_cons, String.join_cons]
      cases hpiece with
      | text a => rw [ih hnames]; rfl
      | placeholder hname =>
          rw [Template.names_placeholder hname] at hnames
          rw [ih hnames]
          rfl
      | value hname =>
          rw [Template.names_reference hname] at hnames
          cases hnames

/-- What a template that is not blank comes to is blank exactly if it refers to some name and all
its segments come to something blank. -/
theorem trim_join_eq_empty_iff {room : Nat} {template : String} {pieces : List String}
    (h : List.Forall₂ (r.Piece room s) (Template.parse template) pieces)
    (htemplate : Text.trim template ≠ "") :
    Text.trim (String.join pieces) = "" ↔
      Template.names (Template.parse template) ≠ [] ∧ ∀ p ∈ pieces, Text.trim p = "" := by
  simp only [Text.trim_eq_empty_iff, Text.blank_join, List.all_eq_true]
  refine ⟨fun hblank => ⟨fun hnames => htemplate ?_, hblank⟩, And.right⟩
  have hjoin := join_of_names_nil h hnames
  rw [Template.write_parse] at hjoin
  rw [Text.trim_eq_empty_iff, ← hjoin, Text.blank_join, List.all_eq_true]
  exact hblank

/-! ### The elements on the way -/

/-- On the way to the locator of an element, with so much room, that of another one is looked up. -/
inductive Visits (r : Resolver ι) : Nat → String → State → Nat → String → State → Prop where
  | here {room : Nat} {element : String} {s : State} : Visits r room element s room element s
  | around {room room' : Nat} {element word template x container other : String}
      {strategy : Strategy} {s t u : State} : r.dryRun = false →
      s.store.findWord? (Key.locator element) = some word → Strategy.read word = .ok strategy →
      s.store.findWord? (Key.expression element word) = some template →
      expand (r.inner room) (Template.parse template) s = (.ok x, t) →
      t.store.findWord? (Key.container element word) = some container →
      Visits r room container t room' other u → Visits r (room + 1) element s room' other u

variable {room room' : Nat} {element other : String}

theorem Visits.frames (h : r.Visits room element s room' other u) : r.Frames s u := by
  induction h with
  | here => exact .refl r _
  | around _ _ _ _ hx _ _ ih => exact (pieces_of_expand (.refl r _) hx).1.trans ih

/-- Lookups keep the strategies, the expressions and the containers that are bound. -/
theorem Frames.findWord?_eq (h : r.Frames s t) {key : String} (hkey : Key.Settled key) :
    t.store.findWord? key = s.store.findWord? key := by
  obtain ⟨new, -, -, hframed⟩ := h
  exact hframed.findWord?_eq (hkey.not_mem_touchedBy new)

/-- That an element on the way has no locator is the failure of the first one. -/
theorem Visits.locatorAt_error (h : r.Visits room element s room' other u) {f : ResolutionFault}
    {t : State} (hf : r.locatorAt room' other u = (.error f, t)) :
    r.locatorAt room element s = (.error f, t) := by
  induction h with
  | here => exact hf
  | around hlive hword hread htemplate hx hcontainer _ ih =>
      rw [locatorAt_succ, locatorStep_run hword hread htemplate hx,
        inContainer_inside hlive hcontainer]
      exact Act.bind_run_error (ih hf)

/-- On the way to the locator of an element that of a link was looked up: its element has a strategy
and a template there, and its expression is what the template came to. -/
inductive Passes (r : Resolver ι) (room : Nat) (element : String) (s : State) (link : Link) :
    Prop where
  | intro {room' : Nat} {word template : String} {u u' : State} :
      r.Visits room element s (room' + 1) link.1 u →
      u.store.findWord? (Key.locator link.1) = some word → Strategy.read word = .ok link.2.1 →
      u.store.findWord? (Key.expression link.1 word) = some template →
      expand (r.inner room') (Template.parse template) u = (.ok link.2.2, u') →
      Passes r room element s link

/-- The links of a locator that is found were looked up on the way to it. -/
theorem passes_of_locatorAt {l : Locator} (h : r.locatorAt room element s = (.ok l, t))
    {link : Link} (hlink : link ∈ l.chain) : r.Passes room element s link := by
  induction room generalizing element s l t with
  | zero => rw [locatorAt_zero] at h; cases h
  | succ room ih =>
      rw [locatorAt_succ] at h
      obtain ⟨word, strategy, template, x, t₁, hword, hread, htemplate, hx, h⟩ :=
        of_locatorStep_ok h
      have hown : r.Passes (room + 1) element s (element, strategy, x) :=
        .intro .here hword hread htemplate hx
      rcases of_inContainer_ok h with ⟨-, -, rfl⟩ | ⟨container, hcontainer, hin⟩
      · exact List.mem_singleton.1 hlink ▸ hown
      · rcases hin with ⟨-, -, rfl, -⟩ | ⟨hlive, around, haround, rfl⟩
        · exact List.mem_singleton.1 hlink ▸ hown
        · rcases List.mem_cons.1 hlink with rfl | hlink
          · exact hown
          · obtain ⟨hvisits, hword', hread', htemplate', hx'⟩ := ih haround hlink
            exact .intro (.around hlive hword hread htemplate hx hcontainer hvisits) hword' hread'
              htemplate' hx'

/-! ### What is reported -/

theorem Frames.lacks_iff (h : r.Frames s t) {key : String} :
    t.store.Lacks element key ↔ s.store.Lacks element key := by
  constructor
  · rintro (hnone | ⟨hword, hread, hnone⟩)
    · exact .locator (h.findWord?_eq (Key.settled_locator element) ▸ hnone)
    · exact .expression (h.findWord?_eq (Key.settled_locator element) ▸ hword) hread
        (h.findWord?_eq (Key.settled_expression hread element) ▸ hnone)
  · rintro (hnone | ⟨hword, hread, hnone⟩)
    · exact .locator ((h.findWord?_eq (Key.settled_locator element)).trans hnone)
    · exact .expression ((h.findWord?_eq (Key.settled_locator element)).trans hword) hread
        ((h.findWord?_eq (Key.settled_expression hread element)).trans hnone)

omit [PageReader ι] in
/-- What an element lacks is reported, with its key, and nothing is done. -/
theorem locatorStep_of_lacks {value : String → Lookup String}
    {locator : String → Lookup Locator} {key : String} (h : s.store.Lacks element key) :
    r.locatorStep value locator element s = (.error (.locatorUnbound element key), s) := by
  have missing {key : String} (hnone : s.store.findWord? key = none) :
      locatorWord element key s = (.error (.locatorUnbound element key), s) := by
    rw [locatorWord, Act.bind_run_ok (word?_run key s), hnone]
    rfl
  cases h with
  | locator hnone => exact Act.bind_run_error (missing hnone)
  | expression hword hread hnone =>
      rw [locatorStep, Act.bind_run_ok (locatorWord_run hword),
        Act.bind_run_ok (strategyOf_run hread element s)]
      exact Act.bind_run_error (missing hnone)

/-- Where the lookup of an element comes to one that lacks something, this is reported. -/
theorem Visits.locatorAt_of_lacks {key : String}
    (h : r.Visits room element s (room' + 1) other u) (hlacks : s.store.Lacks other key) :
    r.locatorAt room element s = (.error (.locatorUnbound other key), u) := by
  refine h.locatorAt_error ?_
  rw [locatorAt_succ]
  exact locatorStep_of_lacks (h.frames.lacks_iff.2 hlacks)

/-- **An expression is empty only by the values in it.**  Each link of a locator that is found has
a template bound for it that is not blank, and its expression is what the segments of the template
come to, one after the other.  So it is blank exactly if the template refers to some name and every
segment comes to something blank.  Where an element on the way lacks its strategy or its expression,
or has a blank one, that is reported with the key of this element, and nothing more is done. -/
theorem expressions_from_values (r : Resolver ι) (element : String) (s : State) :
    (∀ l t, r.locator element s = (.ok l, t) → ∀ link ∈ l.chain,
        ∃ word template room pieces,
          s.store.findWord? (Key.locator link.1) = some word ∧ Strategy.read word = .ok link.2.1 ∧
          s.store.findWord? (Key.expression link.1 word) = some template ∧
          List.Forall₂ (r.Piece room s) (Template.parse template) pieces ∧
          link.2.2 = String.join pieces ∧
          (Text.trim link.2.2 = "" ↔
            Template.names (Template.parse template) ≠ [] ∧ ∀ p ∈ pieces, Text.trim p = "")) ∧
      ∀ room other u key, r.Visits (r.maxDepth + 1) element s (room + 1) other u →
        s.store.Lacks other key →
        r.locator element s = (.error (.locatorUnbound other key), u) := by
  refine ⟨fun l t h link hlink => ?_, fun room other u key hvisits => hvisits.locatorAt_of_lacks⟩
  obtain ⟨hvisits, hword, hread, htemplate, hx⟩ := passes_of_locatorAt h hlink
  have hframes := hvisits.frames
  rw [hframes.findWord?_eq (Key.settled_locator link.1)] at hword
  rw [hframes.findWord?_eq (Key.settled_expression hread link.1)] at htemplate
  obtain ⟨-, pieces, hpieces, hjoin⟩ := pieces_of_expand hframes hx
  refine ⟨_, _, _, pieces, hword, hread, htemplate, hpieces, hjoin, ?_⟩
  rw [hjoin]
  exact trim_join_eq_empty_iff hpieces (ScopeStack.trim_ne_empty_of_findWord? htemplate)

/-- A box whose expression is a script, and a lid in a crate whose expression is blank. -/
def boxState : State :=
  Session.begin ⟨[⟨.page, Session.pageName, [("box/locator", "id"), ("box/locator/id", "$[which]"),
    ("which/javascript", "null"), ("lid/locator", "id"), ("lid/locator/id", "l"),
    ("lid/locator/id/container", "crate"), ("crate/locator", "id"), ("crate/locator/id", " ")]⟩],
    []⟩ (World.fresh .bare [])

/-- The script gives nothing, and the box is looked for with an empty expression. -/
theorem box_has_empty_expression :
    (circleResolver.locator "box" boxState).1.toOption.map Locator.chain =
      some [("box", .id, "")] := by
  decide +kernel

theorem visits_crate : circleResolver.Visits 17 "lid" boxState 16 "crate" boxState := by
  have hword : boxState.store.findWord? (Key.locator "lid") = some "id" := rfl
  have hexpression : boxState.store.findWord? (Key.expression "lid" "id") = some "l" := rfl
  have hcontainer : boxState.store.findWord? (Key.container "lid" "id") = some "crate" := rfl
  have hplain : Plain "l" := ⟨by decide +kernel, by decide +kernel, by decide +kernel⟩
  exact .around rfl hword rfl hexpression (expand_of_plain hplain _ _) hcontainer .here

/-- The box is looked for with what its template comes to; what the lid cannot be found without is
reported of its crate. -/
theorem box_from_template_and_crate_missing :
    (∃ word template room pieces,
        boxState.store.findWord? (Key.locator "box") = some word ∧
        boxState.store.findWord? (Key.expression "box" word) = some template ∧
        List.Forall₂ (circleResolver.Piece room boxState) (Template.parse template) pieces ∧
        "" = String.join pieces) ∧
      circleResolver.locator "lid" boxState =
        (.error (.locatorUnbound "crate" (Key.expression "crate" "id")), boxState) := by
  constructor
  · have hchain : (circleResolver.locator "box" boxState).1.toOption.map Locator.chain =
        some [("box", .id, "")] := by decide +kernel
    rcases hrun : circleResolver.locator "box" boxState with ⟨f | l, t⟩
    · rw [hrun] at hchain
      cases hchain
    · rw [hrun] at hchain
      have hlink : ("box", .id, "") ∈ l.chain := by
        rw [Option.some.inj hchain]
        exact List.mem_singleton_self _
      obtain ⟨word, template, room, pieces, hword, -, htemplate, hpieces, hjoin, -⟩ :=
        (expressions_from_values circleResolver "box" boxState).1 l t hrun _ hlink
      exact ⟨word, template, room, pieces, hword, htemplate, hpieces, hjoin⟩
  · have hword : boxState.store.findWord? (Key.locator "crate") = some "id" := rfl
    have hread : Strategy.read "id" = .ok .id := rfl
    have hnone : boxState.store.findWord? (Key.expression "crate" "id") = none := rfl
    exact (expressions_from_values circleResolver "lid" boxState).2 15 "crate" boxState _
      visits_crate (.expression hword hread hnone)

end Resolver

end Bindery
