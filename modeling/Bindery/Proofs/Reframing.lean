import Bindery.Proofs.LookupFrame

/-!
# Bindery — Proofs — Reframing

What is found in bindings that lookups reframed.  A key that was not set is bound as before
(`Reframed.find?_eq`), and a name of which no key was set has the binding it had
(`Reframed.scan_eq`).  Where keys were set that were empty, and that stand for a text of the name if
anything, it has the binding it had or such a text (`Reframed.scan_eq_or`).

The address of the page is a key of one name only (`ofKey?_currentUrl`), so what is bound to it is
of no concern to other names.
-/

namespace Bindery

/-! ### Keys and the names they are for -/

namespace AttributeKind

/-- Whether a binding of this kind is the text that is bound. -/
def isLiteral : AttributeKind → Bool
  | .literal | .text => true
  | _ => false

theorem ofKey?_append (name : String) (suffix : List Char) {key : String}
    (hkey : key.toList = name.toList ++ '/' :: suffix) : ofKey? name key = ofSuffix? suffix := by
  unfold ofKey?
  rw [hkey, Text.after?_append]
  rfl

theorem ofKey?_self (name : String) : ofKey? name name = some .literal := by
  have hafter : Text.after? name.toList name.toList = some [] := by
    rw [Text.after?_eq_some_iff, List.append_nil]
  unfold ofKey?
  rw [hafter]

/-! A field of a lookup is bound under a key of its kind. -/

theorem ofKey?_xpath (name field : String)
    (h : ofSuffix? ("xpath/" ++ field).toList = some .xpath) :
    ofKey? name (Key.xpath name field) = some .xpath :=
  (ofKey?_append name _ (by simp [Key.xpath, toString])).trans h

theorem ofKey?_regex (name field : String)
    (h : ofSuffix? ("regex/" ++ field).toList = some .regex) :
    ofKey? name (Key.regex name field) = some .regex :=
  (ofKey?_append name _ (by simp [Key.regex, toString])).trans h

theorem ofKey?_jsonPath (name field : String)
    (h : ofSuffix? ("json path/" ++ field).toList = some .jsonPath) :
    ofKey? name (Key.jsonPath name field) = some .jsonPath :=
  (ofKey?_append name _ (by simp [Key.jsonPath, toString])).trans h

/-- What was selected in an element gives it no value. -/
theorem ofKey?_selection (element : String) (facet : Facet) :
    ofKey? element (Key.selection element facet) = none :=
  (ofKey?_append element _ (Key.toList_action element facet.keyPart)).trans
    (by cases facet <;> decide +kernel)

/-- The address of the page gives a value to one name only. -/
theorem ofKey?_currentUrl {name : String} (h : name ≠ Key.currentUrl) :
    ofKey? name Key.currentUrl = none := by
  unfold ofKey?
  split
  next e =>
    rw [Text.after?_eq_some_iff, List.append_nil] at e
    exact absurd (String.toList_injective e).symm h
  next suffix e =>
    rw [Text.after?_eq_some_iff] at e
    have hslash : '/' ∈ Key.currentUrl.toList := by rw [e]; simp
    exact absurd hslash (by decide)
  next => rfl

end AttributeKind

/-! ### The first entry of a name -/

namespace Entries

variable {name : String} {keep : String × String → Bool} {e : Entries}

/-- The first entry that gives a name a value. -/
def firstOf? (name : String) (e : Entries) : Option (AttributeKind × String) :=
  e.findSome? fun (key, value) =>
    if value = "" then none else (AttributeKind.ofKey? name key).map fun kind => (kind, value)

theorem firstOf?_cons (p : String × String) :
    firstOf? name (p :: e) = (firstOf? name [p]).or (e.firstOf? name) := by
  rw [firstOf?, firstOf?, firstOf?, ← List.findSome?_append]
  rfl

/-- An entry that gives the name no value is passed over. -/
theorem firstOf?_cons_of_none {p : String × String}
    (h : p.2 = "" ∨ AttributeKind.ofKey? name p.1 = none) :
    firstOf? name (p :: e) = e.firstOf? name := by
  rw [firstOf?_cons]
  rcases h with h | h <;> simp [firstOf?, h]

theorem firstOf?_cons_of_some {p : String × String} {kind : AttributeKind} (hvalue : p.2 ≠ "")
    (hkind : AttributeKind.ofKey? name p.1 = some kind) :
    firstOf? name (p :: e) = some (kind, p.2) := by
  simp [firstOf?, hvalue, hkind]

/-- Entries that give the name no value may be left out. -/
theorem firstOf?_filter
    (h : ∀ p ∈ e, keep p = false → p.2 = "" ∨ AttributeKind.ofKey? name p.1 = none) :
    firstOf? name (e.filter keep) = e.firstOf? name := by
  induction e with
  | nil => rfl
  | cons p rest ih =>
      obtain ⟨hp, hrest⟩ := List.forall_mem_cons.1 h
      cases hkeep : keep p with
      | true =>
          rw [List.filter_cons_of_pos hkeep, firstOf?_cons, ih hrest, ← firstOf?_cons]
      | false =>
          rw [List.filter_cons_of_neg (by simp [hkeep]), ih hrest]
          exact (firstOf?_cons_of_none (hp hkeep)).symm

/-- Entries that stand for a text of the name, if they give it a value at all, may be left out, or
one of them comes first. -/
theorem firstOf?_filter_or (h : ∀ p ∈ e, keep p = false →
      ∀ kind, AttributeKind.ofKey? name p.1 = some kind → kind.isLiteral = true) :
    e.firstOf? name = firstOf? name (e.filter keep) ∨
      ∃ kind v, kind.isLiteral = true ∧ v ≠ "" ∧ e.firstOf? name = some (kind, v) := by
  induction e with
  | nil => exact .inl rfl
  | cons p rest ih =>
      obtain ⟨hp, hrest⟩ := List.forall_mem_cons.1 h
      by_cases hnone : p.2 = "" ∨ AttributeKind.ofKey? name p.1 = none
      · rw [firstOf?_cons_of_none hnone, List.filter_cons]
        split
        · rw [firstOf?_cons_of_none hnone]
          exact ih hrest
        · exact ih hrest
      · obtain ⟨hvalue, hkind⟩ := not_or.1 hnone
        obtain ⟨kind, hkind⟩ := Option.ne_none_iff_exists'.1 hkind
        rw [firstOf?_cons_of_some hvalue hkind]
        cases hkeep : keep p with
        | true =>
            rw [List.filter_cons_of_pos hkeep, firstOf?_cons_of_some hvalue hkind]
            exact .inl rfl
        | false => exact .inr ⟨kind, p.2, hp hkeep kind hkind, hvalue, rfl⟩

end Entries

namespace ScopeStack

theorem firstOf?_eq (s : ScopeStack) (name : String) :
    s.firstOf? name = s.entries.firstOf? name := by
  refine Entries.firstOf?_filter fun p _ hp => .inr ?_
  by_contra hkind
  obtain ⟨kind, hkind⟩ := Option.ne_none_iff_exists'.1 hkind
  rw [AttributeKind.startsWith_of_ofKey? hkind] at hp
  cases hp

/-- The first entry is that of the innermost scope, if there is one in it. -/
theorem firstOf?_eq_or (s : ScopeStack) (name : String) :
    s.firstOf? name = (s.current.entries.firstOf? name).or
      (Entries.firstOf? name (s.scopes.tail.flatMap Scope.entries)) := by
  rw [firstOf?_eq, entries, scopes_eq_current, List.flatMap_cons, List.tail_cons]
  exact List.findSome?_append

/-- A name that is bound in the innermost scope last has that for its value. -/
theorem scan_set_self {name value : String} (h : value ≠ "") (s : ScopeStack) :
    (s.set name value).scan name = .ok (some (.literal value)) := by
  have hfirst : (s.set name value).firstOf? name = some (.literal, value) := by
    rw [firstOf?_eq_or, current_set]
    simp [Scope.set, Entries.put, Entries.firstOf?, h, AttributeKind.ofKey?_self]
  rw [scan, hfirst]
  rfl

/-- The text of a name is its value, whether it is bound as a literal one or not. -/
theorem scan_of_isLiteral {s : ScopeStack} {name v : String} {kind : AttributeKind}
    (hkind : kind.isLiteral = true) (h : s.firstOf? name = some (kind, v)) :
    s.scan name = .ok (some (.literal v)) := by
  rw [scan, h]
  cases kind with
  | literal | text => rfl
  | _ => cases hkind

/-- A binding is made of what stands under the keys that are for lookups of its name. -/
theorem attributeOf_congr {s t : ScopeStack} {name : String}
    (h : ∀ key kind, AttributeKind.ofKey? name key = some kind → kind.isLiteral = false →
      t.find? key = s.find? key) (value : String) (kind : AttributeKind) :
    t.attributeOf name value kind = s.attributeOf name value kind := by
  have xpath (field) (hfield) := h _ _ (AttributeKind.ofKey?_xpath name field hfield) rfl
  have regex (field) (hfield) := h _ _ (AttributeKind.ofKey?_regex name field hfield) rfl
  have jsonPath (field) (hfield) := h _ _ (AttributeKind.ofKey?_jsonPath name field hfield) rfl
  cases kind with
  | xpath =>
      simp only [attributeOf, field, findWord?, xpath "source" (by decide),
        xpath "expression" (by decide), xpath "targetType" (by decide)]
  | regex =>
      simp only [attributeOf, field, regex "source" (by decide), regex "expression" (by decide)]
  | jsonPath =>
      simp only [attributeOf, field, jsonPath "source" (by decide),
        jsonPath "expression" (by decide)]
  | _ => rfl

/-! ### What is found after bindings were reframed -/

namespace Reframed

variable {touched : List String} {s t : ScopeStack} {name key : String}

theorem find?_current_eq (h : Reframed touched s t) (hkey : key ∉ touched) :
    t.current.entries.find? key = s.current.entries.find? key := by
  have hkeep : decide (key ∉ touched) = true := by simpa using hkey
  rw [← Entries.find?_filter (fun k => k ∉ touched) hkeep, h.others,
    Entries.find?_filter (fun k => k ∉ touched) hkeep]

/-- A key that was not set is bound as before. -/
theorem find?_eq (h : Reframed touched s t) (hkey : key ∉ touched) : t.find? key = s.find? key := by
  rw [find?, find?, scopes_eq_current t, scopes_eq_current s, h.outer, List.findSome?_cons,
    List.findSome?_cons, h.find?_current_eq hkey]

theorem findWord?_eq (h : Reframed touched s t) (hkey : key ∉ touched) :
    t.findWord? key = s.findWord? key := by
  rw [findWord?, findWord?, h.find?_eq hkey]

/-- The fields of a lookup are not among keys that stand for texts. -/
theorem attributeOf_eq (h : Reframed touched s t)
    (hname : ∀ key ∈ touched, ∀ kind, AttributeKind.ofKey? name key = some kind →
      kind.isLiteral = true) (value : String) (kind : AttributeKind) :
    t.attributeOf name value kind = s.attributeOf name value kind :=
  attributeOf_congr (fun key kind hkind hlookup => h.find?_eq fun hmem => by
    rw [hname key hmem kind hkind] at hlookup
    cases hlookup) value kind

/-- A name of which no key was set has the binding that it had. -/
theorem scan_eq (h : Reframed touched s t)
    (hname : ∀ key ∈ touched, AttributeKind.ofKey? name key = none) :
    t.scan name = s.scan name := by
  have hcurrent (scope : Scope) : scope.entries.firstOf? name =
      Entries.firstOf? name (scope.entries.filter fun p => p.1 ∉ touched) :=
    (Entries.firstOf?_filter fun p _ hp => .inr (hname _ (by simpa using hp))).symm
  have hattribute := h.attributeOf_eq fun key hkey kind hkind => by
    rw [hname key hkey] at hkind
    cases hkind
  unfold scan
  rw [firstOf?_eq_or, firstOf?_eq_or, hcurrent, hcurrent, h.others, h.outer]
  simp only [hattribute]

/-- If the keys that were set stand for texts of a name, and were empty where they do, the name has
the binding that it had, or a text. -/
theorem scan_eq_or (h : Reframed touched s t)
    (hname : ∀ key ∈ touched, ∀ kind, AttributeKind.ofKey? name key = some kind →
      kind.isLiteral = true)
    (hempty : ∀ p ∈ s.current.entries, p.1 ∈ touched →
      p.2 = "" ∨ AttributeKind.ofKey? name p.1 = none) :
    t.scan name = s.scan name ∨ ∃ v, v ≠ "" ∧ t.scan name = .ok (some (.literal v)) := by
  have hold : s.current.entries.firstOf? name =
      Entries.firstOf? name (s.current.entries.filter fun p => p.1 ∉ touched) :=
    (Entries.firstOf?_filter fun p hp hkeep => hempty p hp (by simpa using hkeep)).symm
  have hnew : t.current.entries.firstOf? name =
      Entries.firstOf? name (t.current.entries.filter fun p => p.1 ∉ touched) ∨ _ :=
    Entries.firstOf?_filter_or fun p _ hkeep => hname p.1 (by simpa using hkeep)
  rcases hnew with hsame | ⟨kind, v, hkind, hv, hfirst⟩
  · left
    unfold scan
    rw [firstOf?_eq_or, firstOf?_eq_or, hsame, hold, h.others, h.outer]
    simp only [h.attributeOf_eq hname]
  · refine .inr ⟨v, hv, scan_of_isLiteral hkind ?_⟩
    rw [firstOf?_eq_or, hfirst]
    rfl

end Reframed

end ScopeStack

end Bindery
