import Bindery.Proofs.Operations
import Bindery.Proofs.Reframing
import Bindery.Proofs.Stacking
import Mathlib.Data.List.TakeWhile

/-!
# Bindery — Proofs — Isolation

Names do not meddle with each other.  Keys are flat texts, and the keys of `q2` are listed with
those that start with `q`; but a key gives a value to a name only if it is the name or the name with
a slash after it (`belongsTo_of_ofKey?`).  Of a key whose owner has no slash in it, the part before
the first slash is the owner (`owner_of_belongsTo`), so it has one owner among such names.

What a scan reads of a stack, and what a locator is made of, are the entries of its name
(`scan_eq_of_ownedBy`, `find?_eq_of_ownedBy`).  A change that sets a key of another name leaves
these entries as they are (`ownedBy_change`), and so do any number of them (`ownedBy_run`).
-/

namespace Bindery

/-! ### The owner of a key -/

namespace Key

/-- A key of a name: the name itself, or what stands below it. -/
def BelongsTo (name key : String) : Prop := key = name ∨ ∃ rest, key = name ++ "/" ++ rest

/-- The part of a key before its first slash. -/
def owner (key : String) : String := String.ofList (key.toList.takeWhile (· ≠ '/'))

theorem belongsTo_of_toList {name key : String} (rest : List Char)
    (h : key.toList = name.toList ++ '/' :: rest) : BelongsTo name key := by
  refine .inr ⟨String.ofList rest, String.toList_injective ?_⟩
  simp [h]

theorem owner_of_belongsTo {name key : String} (hname : '/' ∉ name.toList)
    (h : BelongsTo name key) : owner key = name := by
  have hall : ∀ c ∈ name.toList, decide (c ≠ '/') = true := by
    intro c hc
    rw [decide_eq_true_iff]
    rintro rfl
    exact hname hc
  refine String.toList_injective ?_
  rw [owner, String.toList_ofList]
  rcases h with rfl | ⟨rest, rfl⟩
  · exact List.takeWhile_eq_self_iff.2 hall
  · rw [String.toList_append, String.toList_append, List.append_assoc,
      List.takeWhile_append_of_pos hall]
    simp

/-- A key under which a part of an element's locator is bound. -/
def Locates (element key : String) : Prop :=
  ∃ rest, key.toList = element.toList ++ '/' :: ("locator".toList ++ rest)

theorem locates_locator (element : String) : Locates element (locator element) :=
  ⟨[], by simp [locator, toString]⟩

theorem locates_expression (element strategy : String) :
    Locates element (expression element strategy) :=
  ⟨'/' :: strategy.toList, by simp [expression, toString]⟩

theorem locates_container (element strategy : String) :
    Locates element (container element strategy) :=
  ⟨'/' :: strategy.toList ++ "/container".toList, by simp [container, toString]⟩

theorem Locates.belongsTo {element key : String} (h : Locates element key) :
    BelongsTo element key := by
  obtain ⟨rest, hkey⟩ := h
  exact belongsTo_of_toList _ hkey

end Key

/-! ### Keys that give no value -/

namespace AttributeKind

/-- Only a key of a name gives it a value. -/
theorem belongsTo_of_ofKey? {name key : String} {kind : AttributeKind}
    (h : ofKey? name key = some kind) : Key.BelongsTo name key := by
  unfold ofKey? at h
  split at h
  next hafter =>
    rw [Text.after?_eq_some_iff, List.append_nil] at hafter
    exact .inl (String.toList_injective hafter)
  next suffix hafter =>
    rw [Text.after?_eq_some_iff] at hafter
    exact Key.belongsTo_of_toList suffix hafter
  next => cases h

/-- Where an element is found gives it no value. -/
theorem ofKey?_of_locates {element key : String} (h : Key.Locates element key) :
    ofKey? element key = none := by
  obtain ⟨rest, hkey⟩ := h
  rw [ofKey?_append element _ hkey]
  simp [ofSuffix?, hasField, Text.after?]

/-- What is bound for an action on an element, and for the pause and the condition after it, gives
the element no value. -/
theorem ofKey?_deed {op : Operation} {d : Deed} (h : op.deed? = some d) (element : String) :
    ofKey? element (Key.action element d.action) = none ∧
      ofKey? element (Key.wait element d.action) = none ∧
      ofKey? element (Key.condition element d.action) = none := by
  have hsuffix : ofSuffix? d.action.toList = none ∧
      ofSuffix? (d.action.toList ++ "/wait".toList) = none ∧
      ofSuffix? (d.action.toList ++ "/condition".toList) = none := by
    cases op <;> cases h <;> dsimp only <;> decide +kernel
  obtain ⟨haction, hwait, hcondition⟩ := hsuffix
  exact ⟨(ofKey?_append element _ (Key.toList_action _ _)).trans haction,
    (ofKey?_append element _ (by simp [Key.wait, toString])).trans hwait,
    (ofKey?_append element _ (by simp [Key.condition, toString])).trans hcondition⟩

end AttributeKind

/-! ### The entries of a name -/

namespace Entries

variable {name key : String}

/-- The entries under the keys of a name. -/
def ownedBy (name : String) (e : Entries) : Entries := e.filter fun p => Key.owner p.1 = name

theorem find?_ownedBy (h : Key.owner key = name) (e : Entries) :
    (e.ownedBy name).find? key = e.find? key :=
  find?_filter (fun k => Key.owner k = name) (by simpa using h) e

theorem firstOf?_ownedBy (hname : '/' ∉ name.toList) (e : Entries) :
    (e.ownedBy name).firstOf? name = e.firstOf? name := by
  refine firstOf?_filter fun p _ hp => .inr ?_
  by_contra hkind
  obtain ⟨kind, hkind⟩ := Option.ne_none_iff_exists'.1 hkind
  have howner := Key.owner_of_belongsTo hname (AttributeKind.belongsTo_of_ofKey? hkind)
  simp [howner] at hp

/-- Setting a key of another name leaves the entries of a name as they are. -/
theorem ownedBy_put (h : Key.owner key ≠ name) (value : String) (e : Entries) :
    (e.put key value).ownedBy name = e.ownedBy name := by
  rw [put, ownedBy, List.filter_cons_of_neg (by simpa using h), List.filter_filter, ownedBy]
  refine List.filter_congr fun p _ => ?_
  by_cases hp : Key.owner p.1 = name
  · have hne : p.1 ≠ key := fun heq => h (heq ▸ hp)
    simp [hp, hne]
  · simp [hp]

end Entries

namespace ScopeStack

variable {name key : String} {s t : ScopeStack}

theorem ownedBy_entries (name : String) (s : ScopeStack) :
    s.entries.ownedBy name = s.scopes.flatMap fun scope => scope.entries.ownedBy name := by
  rw [entries, Entries.ownedBy, List.filter_flatMap]
  rfl

/-- A key of a name is bound to what the entries of the name say. -/
theorem find?_eq_of_ownedBy (h : t.entries.ownedBy name = s.entries.ownedBy name)
    (hkey : Key.owner key = name) : t.find? key = s.find? key := by
  rw [find?_eq_entries, find?_eq_entries, ← Entries.find?_ownedBy hkey, h,
    Entries.find?_ownedBy hkey]

/-- The binding of a name is told from the entries of the name. -/
theorem scan_eq_of_ownedBy (hname : '/' ∉ name.toList)
    (h : t.entries.ownedBy name = s.entries.ownedBy name) : t.scan name = s.scan name := by
  have hfirst : t.firstOf? name = s.firstOf? name := by
    rw [firstOf?_eq, firstOf?_eq, ← Entries.firstOf?_ownedBy hname, h,
      Entries.firstOf?_ownedBy hname]
  have hattribute := attributeOf_congr fun key kind hkind _ => find?_eq_of_ownedBy h
    (Key.owner_of_belongsTo hname (AttributeKind.belongsTo_of_ofKey? hkind))
  unfold scan
  rw [hfirst]
  simp only [hattribute]

/-! ### Changes that set keys of other names -/

/-- A change that sets a key, in the innermost scope or in the innermost one of a kind. -/
def Change.Sets (key value : String) (c : Change) : Prop :=
  c = .set key value ∨ ∃ kind, c = .setIn kind key value

/-- A change that sets a key of another name than the given one, to any value. -/
def Change.Foreign (name : String) (c : Change) : Prop :=
  ∃ element key value, '/' ∉ element.toList ∧ name ≠ element ∧ Key.BelongsTo element key ∧
    c.Sets key value

theorem ownedBy_change {c : Change} (hc : c.Foreign name) (s : ScopeStack) :
    (s.change c).entries.ownedBy name = s.entries.ownedBy name := by
  obtain ⟨element, key, value, helement, hne, hkey, hc⟩ := hc
  have howner : Key.owner key ≠ name := by
    rw [Key.owner_of_belongsTo helement hkey]
    exact hne.symm
  have hset (scope : Scope) :
      (scope.set key value).entries.ownedBy name = scope.entries.ownedBy name :=
    Entries.ownedBy_put howner value scope.entries
  rw [ownedBy_entries, ownedBy_entries]
  rcases hc with rfl | ⟨kind, rfl⟩
  · rw [change, scopes_set, scopes_eq_current s, List.flatMap_cons, List.flatMap_cons, hset,
      List.tail_cons]
  · rw [change, setIn, scopes_changeIn kind (f := Scope.set key value) fun _ => ⟨rfl, rfl⟩]
    -- whichever scope is changed, its part of the entries stays
    generalize s.scopes.findIdx _ = n
    induction s.scopes generalizing n with
    | nil => cases n <;> rfl
    | cons scope rest ih =>
        cases n with
        | zero => rw [List.modify_zero_cons, List.flatMap_cons, List.flatMap_cons, hset]
        | succ n => rw [List.modify_succ_cons, List.flatMap_cons, List.flatMap_cons, ih]

theorem ownedBy_run {changes : List Change} (h : ∀ c ∈ changes, c.Foreign name) (s : ScopeStack) :
    (s.run changes).entries.ownedBy name = s.entries.ownedBy name := by
  induction changes generalizing s with
  | nil => rfl
  | cons c rest ih =>
      obtain ⟨hc, hrest⟩ := List.forall_mem_cons.1 h
      exact (ih hrest (s.change c)).trans (ownedBy_change hc s)

open AttributeKind (ofKey?)

/-- **Names are isolated.**  Where an element is found, what was selected in it, what was done to it
and what followed give it no value, whatever it is called.  And for a name without slashes, setting
keys of other such names, to whatever values, in whatever scopes and however often, changes neither
what its scan finds nor what its locator is made of.  A name may be the beginning of another one, or
empty. -/
theorem names_isolated :
    (∀ (element strategy : String) (facet : Facet),
      ofKey? element (Key.locator element) = none ∧
      ofKey? element (Key.expression element strategy) = none ∧
      ofKey? element (Key.container element strategy) = none ∧
      ofKey? element (Key.selection element facet) = none) ∧
    (∀ (op : Operation) (d : Deed), op.deed? = some d → ∀ element,
      ofKey? element (Key.action element d.action) = none ∧
      ofKey? element (Key.wait element d.action) = none ∧
      ofKey? element (Key.condition element d.action) = none) ∧
    ∀ (name : String) (changes : List Change), '/' ∉ name.toList →
      (∀ c ∈ changes, c.Foreign name) → ∀ s : ScopeStack,
        (s.run changes).scan name = s.scan name ∧
        (s.run changes).find? (Key.locator name) = s.find? (Key.locator name) ∧
        ∀ strategy,
          (s.run changes).find? (Key.expression name strategy) =
            s.find? (Key.expression name strategy) ∧
          (s.run changes).find? (Key.container name strategy) =
            s.find? (Key.container name strategy) := by
  refine ⟨fun element strategy facet =>
    ⟨AttributeKind.ofKey?_of_locates (Key.locates_locator element),
      AttributeKind.ofKey?_of_locates (Key.locates_expression element strategy),
      AttributeKind.ofKey?_of_locates (Key.locates_container element strategy),
      AttributeKind.ofKey?_selection element facet⟩,
    fun op d => AttributeKind.ofKey?_deed, fun name changes hname hforeign s => ?_⟩
  have hown := ownedBy_run hforeign s
  have hfind {key : String} (h : Key.Locates name key) : (s.run changes).find? key = s.find? key :=
    find?_eq_of_ownedBy hown (Key.owner_of_belongsTo hname h.belongsTo)
  exact ⟨scan_eq_of_ownedBy hname hown, hfind (Key.locates_locator name), fun strategy =>
    ⟨hfind (Key.locates_expression name strategy), hfind (Key.locates_container name strategy)⟩⟩

/-- A script is bound to `topic`; then `topics` is bound to a text above it, and the name that is
empty to one below.  The pause after a click on it does not count either. -/
theorem topic_isolated :
    let s := empty.run [.set "topic/javascript" "return 1", .push .page "page"]
    let changes := [.set "topics/text" "all", .setIn .global "/text" "none"]
    ((Operation.click "topic").deed?.isSome = true ∧
      ofKey? "topic" (Key.wait "topic" "click") = none) ∧
    '/' ∉ "topic".toList ∧ (∀ c ∈ changes, Change.Foreign "topic" c) ∧
      (s.run changes).scan "topic" = s.scan "topic" ∧
      s.scan "topic" = .ok (some (.script "return 1")) := by
  intro s changes
  have hname : '/' ∉ "topic".toList := by decide
  have hforeign : ∀ c ∈ changes, Change.Foreign "topic" c :=
    List.forall_mem_cons.2
      ⟨⟨"topics", "topics/text", "all", by decide, by decide, .inr ⟨"text", by decide⟩, .inl rfl⟩,
        List.forall_mem_singleton.2 ⟨"", "/text", "none", by decide, by decide,
          .inr ⟨"text", by decide⟩, .inr ⟨.global, rfl⟩⟩⟩
  have hwait := (names_isolated.2.1 (.click "topic") _ rfl "topic").2.1
  exact ⟨⟨rfl, hwait⟩, hname, hforeign, (names_isolated.2.2 "topic" changes hname hforeign s).1,
    rfl⟩

end ScopeStack

end Bindery
