import Bindery.Resolution.Scan
import Mathlib.Tactic.ByContra

/-!
# Bindery — Proofs — Bindings

The bindings of a stack, scope by scope.  Setting a key changes the innermost scope and no other
(`scopes_set`).  A scan finds nothing exactly when every binding of a kind for the name is empty
(`scan_eq_none_iff`), so a name whose scan found nothing has no text in any scope.
-/

namespace Bindery

/-! ### Entries -/

namespace Entries

theorem mem_put_iff {name value : String} {e : Entries} {p : String × String} :
    p ∈ e.put name value ↔ p = (name, value) ∨ p ∈ e ∧ p.1 ≠ name := by
  simp [put]

/-- Where a name is bound once, the entry under it is the one that is found. -/
theorem find?_of_mem {e : Entries} (h : (e.map Prod.fst).Nodup) {name value : String}
    (hm : (name, value) ∈ e) : e.find? name = some value := by
  induction e with
  | nil => cases hm
  | cons p rest ih =>
      obtain ⟨k, v⟩ := p
      rw [List.map_cons, List.nodup_cons] at h
      rcases List.mem_cons.1 hm with hp | hr
      · cases hp
        simp [find?]
      · have hk : name ≠ k := by
          rintro rfl
          exact h.1 (List.mem_map.2 ⟨_, hr, rfl⟩)
        have hb : (name == k) = false := by simpa using hk
        rw [find?, List.lookup_cons, hb]
        exact ih h.2 hr

theorem mem_of_find? {e : Entries} {name value : String} (h : e.find? name = some value) :
    (name, value) ∈ e := by
  obtain ⟨before, later, rfl, -⟩ := List.lookup_eq_some_iff.1 h
  simp

theorem find?_eq_none_iff {e : Entries} {name : String} :
    e.find? name = none ↔ ∀ value, (name, value) ∉ e := by
  rw [find?, List.lookup_eq_none_iff]
  constructor
  · intro h value hmem
    simpa using h _ hmem
  · rintro h ⟨k, v⟩ hmem
    rw [bne_iff_ne]
    rintro rfl
    exact h v hmem

/-- The text under a name is that of the first entry with the name. -/
theorem find?_eq (name : String) (e : Entries) :
    e.find? name = (List.find? (fun p => p.1 = name) e).map Prod.snd := by
  unfold find?
  induction e with
  | nil => rfl
  | cons p rest ih =>
      obtain ⟨k, v⟩ := p
      rw [List.lookup_cons, List.find?_cons]
      by_cases hk : k = name
      · simp [hk]
      · have hb : (name == k) = false := by simpa using Ne.symm hk
        simp [hb, hk, ih]

end Entries

/-! ### Scopes -/

namespace ScopeStack

theorem scopes_eq_current (s : ScopeStack) : s.scopes = s.current :: s.scopes.tail := by
  obtain ⟨pushed, base⟩ := s
  cases pushed with
  | nil => rfl
  | cons top rest => rfl

/-- Setting a key sets it in the innermost scope and leaves the others as they are. -/
theorem scopes_set (key value : String) (s : ScopeStack) :
    (s.set key value).scopes = s.current.set key value :: s.scopes.tail := by
  obtain ⟨pushed, base⟩ := s
  cases pushed with
  | nil => rfl
  | cons top rest => rfl

theorem current_set (key value : String) (s : ScopeStack) :
    (s.set key value).current = s.current.set key value :=
  (List.cons.inj ((scopes_eq_current _).symm.trans (scopes_set key value s))).1

theorem tail_scopes_set (key value : String) (s : ScopeStack) :
    (s.set key value).scopes.tail = s.scopes.tail := by
  rw [scopes_set, List.tail_cons]

/-- What the innermost scope binds is what is found. -/
theorem find?_of_current {s : ScopeStack} {key v : String}
    (h : s.current.entries.find? key = some v) : s.find? key = some v := by
  rw [find?, scopes_eq_current, List.findSome?_cons, h]

/-- Setting a key does not change what is found under another one. -/
theorem find?_set_other {key other : String} (h : other ≠ key) (value : String)
    (s : ScopeStack) : (s.set key value).find? other = s.find? other := by
  have hcurrent : (s.current.set key value).entries.find? other =
      s.current.entries.find? other := Entries.find?_put_other h value s.current.entries
  rw [find?, find?, scopes_set, scopes_eq_current s, List.findSome?_cons, List.findSome?_cons,
    hcurrent, List.tail_cons]

/-- What is found under a key is what the entries of all scopes have under it. -/
theorem find?_eq_entries (key : String) (s : ScopeStack) : s.find? key = s.entries.find? key := by
  rw [entries, Entries.find?_eq, List.find?_flatMap, List.map_findSome?]
  exact congrArg (s.scopes.findSome? ·) (funext fun scope => Entries.find?_eq key scope.entries)

theorem mem_entries_iff {s : ScopeStack} {p : String × String} :
    p ∈ s.entries ↔ p ∈ s.current.entries ∨ ∃ scope ∈ s.scopes.tail, p ∈ scope.entries := by
  rw [entries, scopes_eq_current, List.flatMap_cons, List.mem_append, List.mem_flatMap,
    List.tail_cons]

end ScopeStack

/-! ### Keys -/

namespace Key

theorem toList_action (element act : String) :
    (action element act).toList = element.toList ++ '/' :: act.toList := by
  simp [action, toString]

theorem toList_text (name : String) : (text name).toList = name.toList ++ "/text".toList := by
  simp [text, toString]

theorem text_injective {name other : String} (h : text name = text other) : name = other := by
  have hl := congrArg String.toList h
  rw [toList_text, toList_text] at hl
  exact String.toList_injective (List.append_cancel_right hl)

/-- A key that ends otherwise is not that of a text. -/
theorem ne_text_of_suffix {key : String} (h : ¬ "/text".toList <:+ key.toList) (name : String) :
    key ≠ text name := by
  rintro rfl
  rw [toList_text] at h
  exact h (List.suffix_append _ _)

/-- An action is not bound where a text is, unless it is called so. -/
theorem action_ne_text {act : String} (hlen : "text".toList.length ≤ act.toList.length)
    (h : ¬ "/text".toList <:+ '/' :: act.toList) (element name : String) :
    action element act ≠ text name := by
  refine ne_text_of_suffix (fun hs => h ?_) name
  rw [toList_action] at hs
  exact List.suffix_of_suffix_length_le hs (List.suffix_append _ _) (Nat.succ_le_succ hlen)

theorem currentUrl_ne_text (name : String) : currentUrl ≠ text name :=
  ne_text_of_suffix (by decide) name

theorem action_ne_currentUrl (element act : String) : action element act ≠ currentUrl := by
  intro h
  have hslash : '/' ∈ currentUrl.toList := by
    rw [← h, toList_action]
    simp
  exact absurd hslash (by decide)

theorem selection_ne_text (element : String) (facet : Facet) (name : String) :
    selection element facet ≠ text name := by
  show action element facet.keyPart ≠ text name
  cases facet with
  | text => exact action_ne_text (by decide) (by decide) element name
  | value => exact action_ne_text (by decide) (by decide) element name

end Key

/-! ### The scan -/

theorem AttributeKind.startsWith_of_ofKey? {name key : String} {kind : AttributeKind}
    (h : ofKey? name key = some kind) : Text.startsWith key name = true := by
  unfold ofKey? at h
  unfold Text.startsWith
  cases e : Text.after? name.toList key.toList with
  | none => rw [e] at h; cases h
  | some rest => rfl

theorem AttributeKind.ofKey?_text (name : String) : ofKey? name (Key.text name) = some .text := by
  have hk : (Key.text name).toList = name.toList ++ '/' :: "text".toList := by
    simp [Key.text, toString]
  unfold ofKey?
  rw [hk, Text.after?_append]
  rfl

/-- The only key of a text binding is the one texts stand under. -/
theorem AttributeKind.eq_text_of_ofKey? {name key : String} (h : ofKey? name key = some .text) :
    key = Key.text name := by
  unfold ofKey? at h
  split at h
  next => cases h
  next suffix e =>
    have hsuffix : suffix = "text".toList := by
      by_contra hne
      unfold ofSuffix? at h
      rw [if_neg hne] at h
      repeat' split at h
      all_goals cases h
    rw [Text.after?_eq_some_iff, hsuffix] at e
    exact String.toList_injective (e.trans (Key.toList_text name).symm)
  next => cases h

namespace ScopeStack

/-- A name has no first entry exactly when every entry of a kind for it is empty. -/
theorem firstOf?_eq_none_iff {s : ScopeStack} {name : String} :
    s.firstOf? name = none ↔ ∀ p ∈ s.entries, p.2 ≠ "" → AttributeKind.ofKey? name p.1 = none := by
  rw [firstOf?, List.findSome?_eq_none_iff]
  constructor
  · intro h p hp hv
    by_contra hk
    obtain ⟨kind, hk⟩ := Option.ne_none_iff_exists'.1 hk
    have hw : p ∈ s.entriesWith name :=
      List.mem_filter.2 ⟨hp, AttributeKind.startsWith_of_ofKey? hk⟩
    simpa [hv, hk] using h p hw
  · intro h p hp
    by_cases hv : p.2 = ""
    · simp [hv]
    · simp [hv, h p (List.mem_filter.1 hp).1 hv]

/-- The first entry of a name is an entry of a kind for it that is not empty. -/
theorem mem_entries_of_firstOf? {s : ScopeStack} {name value : String} {kind : AttributeKind}
    (h : s.firstOf? name = some (kind, value)) :
    ∃ key, (key, value) ∈ s.entries ∧ value ≠ "" ∧ AttributeKind.ofKey? name key = some kind := by
  obtain ⟨⟨key, v⟩, hp, hf⟩ := List.exists_of_findSome?_eq_some h
  by_cases hv : v = ""
  · simp [hv] at hf
  · simp only [hv, if_false, Option.map_eq_some_iff] at hf
    obtain ⟨k, hk, hkv⟩ := hf
    cases hkv
    exact ⟨key, (List.mem_filter.1 hp).1, hv, hk⟩

theorem scan_eq_none_iff {s : ScopeStack} {name : String} :
    s.scan name = .ok none ↔ s.firstOf? name = none := by
  unfold scan
  cases s.firstOf? name with
  | none => simp
  | some found =>
      obtain ⟨kind, value⟩ := found
      cases h : s.attributeOf name value kind <;> simp [Except.map, h]

/-- A name whose scan finds nothing has no text in any scope. -/
theorem text_empty_of_scan {s : ScopeStack} {name : String} (h : s.scan name = .ok none)
    {p : String × String} (hp : p ∈ s.entries) (hk : p.1 = Key.text name) : p.2 = "" := by
  by_contra hv
  have hnone := firstOf?_eq_none_iff.1 (scan_eq_none_iff.1 h) p hp hv
  rw [hk, AttributeKind.ofKey?_text] at hnone
  cases hnone

end ScopeStack

end Bindery
