import Bindery.Proofs.Reframing

/-!
# Bindery — Proofs — EmptyBindings

A stack and the same stack without its empty entries.  The first entry of a name is the same in
both (`firstOf?_filled`): an empty text, or an empty field, does not hide what stands further out
when it is told of what kind a binding is.  But each field of a lookup is then read from the
innermost scope that has its key, and where that is empty the search ends (`Hides`).  A field that a
lookup cannot do without is then said to be unbound, and an XPath lookup gives a text whatever it
was to give.

A scan is the same on both stacks exactly when it comes upon no such field
(`scan_ne_of_overlooks`, `scan_filled_of_not_overlooks`).
-/

namespace Bindery

/-! ### Bindings without the empty ones -/

/-- The entries whose value is not empty. -/
def Entries.filled (e : Entries) : Entries := e.filter fun p => p.2 ≠ ""

theorem Entries.mem_filled_iff {e : Entries} {p : String × String} :
    p ∈ e.filled ↔ p ∈ e ∧ p.2 ≠ "" := by
  rw [filled, List.mem_filter, decide_eq_true_iff]

/-- What is found and is not empty is found without the empty entries. -/
theorem Entries.find?_filled {e : Entries} {key v : String} (h : e.find? key = some v)
    (hv : v ≠ "") : e.filled.find? key = some v := by
  obtain ⟨before, later, rfl, hbefore⟩ := List.lookup_eq_some_iff.1 h
  refine List.lookup_eq_some_iff.2 ⟨filled before, filled later, ?_, fun p hp => ?_⟩
  · rw [filled, List.filter_append, List.filter_cons_of_pos (by simpa using hv)]
    rfl
  · exact hbefore p (mem_filled_iff.1 hp).1

/-- A scope without its empty entries. -/
def Scope.filled (s : Scope) : Scope := { s with entries := s.entries.filled }

/-- The fields of a lookup in the value of another name, by their keys. -/
def AttributeKind.fieldKey? (name : String) : AttributeKind → Option (String → String)
  | .xpath => some (Key.xpath name)
  | .regex => some (Key.regex name)
  | .jsonPath => some (Key.jsonPath name)
  | _ => none

/-- The lookup of a kind that is made with some fields. -/
def BoundAttribute.ofFields (source expression target : String) : AttributeKind → BoundAttribute
  | .xpath => .xpath source expression target
  | .regex => .regex source expression
  | _ => .jsonPath source expression

namespace ScopeStack

/-- A stack without its empty entries. -/
def filled (s : ScopeStack) : ScopeStack := ⟨s.pushed.map Scope.filled, s.base.filled⟩

/-- What an XPath lookup is to give. -/
def target (s : ScopeStack) (name : String) : String :=
  (s.findWord? (Key.xpath name "targetType")).getD TargetType.text.word

/-- A key is bound to something where it is found. -/
def Fills (s : ScopeStack) (key : String) : Prop := ∃ v, v ≠ "" ∧ s.find? key = some v

/-- A key is bound to nothing where it is found, and to something further out. -/
def Hides (s : ScopeStack) (key : String) : Prop :=
  s.find? key = some "" ∧ ∃ v, v ≠ "" ∧ (key, v) ∈ s.entries

/-- The scan of a name comes upon a field that is empty where it is found and would be another one
without the empty entries.  It reads the source first, then the expression, and then what the lookup
is to give. -/
inductive Overlooks (s : ScopeStack) (name : String) : Prop where
  | source {kind : AttributeKind} {value : String} {key : String → String} :
      s.firstOf? name = some (kind, value) → kind.fieldKey? name = some key →
      s.Hides (key "source") → Overlooks s name
  | expression {kind : AttributeKind} {value : String} {key : String → String} :
      s.firstOf? name = some (kind, value) → kind.fieldKey? name = some key →
      s.Fills (key "source") → s.Hides (key "expression") → Overlooks s name
  | target {value : String} :
      s.firstOf? name = some (.xpath, value) → s.Fills (Key.xpath name "source") →
      s.Fills (Key.xpath name "expression") → s.Hides (Key.xpath name "targetType") →
      s.filled.target name ≠ TargetType.text.word → Overlooks s name

variable {s : ScopeStack} {name key value : String} {kind : AttributeKind}

theorem scopes_filled (s : ScopeStack) : s.filled.scopes = s.scopes.map Scope.filled := by
  simp [scopes, filled, bottom, Scope.filled]

theorem entries_filled (s : ScopeStack) : s.filled.entries = s.entries.filled := by
  rw [entries, scopes_filled, entries, Entries.filled, List.flatMap_map, List.filter_flatMap]
  rfl

/-- The first entry of a name is told without the empty entries. -/
theorem firstOf?_filled (s : ScopeStack) (name : String) :
    s.filled.firstOf? name = s.firstOf? name := by
  rw [firstOf?_eq, firstOf?_eq, entries_filled]
  exact Entries.firstOf?_filter fun p _ hp => .inl (by simpa using hp)

theorem fills_of_find?_filled {v : String} (h : s.filled.find? key = some v) :
    v ≠ "" ∧ (key, v) ∈ s.entries := by
  rw [find?_eq_entries, entries_filled] at h
  exact (Entries.mem_filled_iff.1 (Entries.mem_of_find? h)).symm

/-- A key that hides nothing is bound to the same without the empty entries, if to anything. -/
theorem find?_filled (h : ¬ s.Hides key) :
    s.filled.find? key = (s.find? key).filter (· ≠ "") := by
  cases hfound : s.find? key with
  | none =>
      cases hfilled : s.filled.find? key with
      | none => rfl
      | some v =>
          rw [find?_eq_entries] at hfound
          exact absurd (fills_of_find?_filled hfilled).2 (Entries.find?_eq_none_iff.1 hfound v)
  | some v =>
      by_cases hv : v = ""
      · subst hv
        cases hfilled : s.filled.find? key with
        | none => rfl
        | some w => exact absurd ⟨hfound, w, fills_of_find?_filled hfilled⟩ h
      · rw [find?_eq_entries] at hfound
        rw [find?_eq_entries, entries_filled, Entries.find?_filled hfound hv,
          Option.filter_some_pos (by simpa using hv)]

theorem field_filled (h : ¬ s.Hides key) : s.filled.field key = s.field key := by
  rw [field, field, find?_filled h, Option.filter_filter]
  simp only [Bool.and_self]

theorem findWord?_filled (h : ¬ s.Hides key) : s.filled.findWord? key = s.findWord? key := by
  rw [findWord?, findWord?, find?_filled h]
  cases s.find? key with
  | none => rfl
  | some v =>
      by_cases hv : v = ""
      · subst hv
        rfl
      · rw [Option.filter_some_pos (by simpa using hv)]

theorem fills_iff : s.Fills key ↔ ∃ v, s.field key = .ok v := by
  constructor
  · rintro ⟨v, hv, hfound⟩
    exact ⟨v, by rw [field, hfound, Option.filter_some_pos (by simpa using hv)]⟩
  · rintro ⟨v, hfield⟩
    rw [field] at hfield
    split at hfield
    next w hfound =>
      obtain ⟨hfound, hw⟩ := Option.filter_eq_some_iff.1 hfound
      exact ⟨w, by simpa using hw, hfound⟩
    next => cases hfield

/-- A field that is not there is said to be unbound. -/
theorem eq_unbound_of_field {f : ResolutionFault} (h : s.field key = .error f) :
    f = .unbound key := by
  rw [field] at h
  split at h
  · cases h
  · exact (Except.error.inj h).symm

theorem field_of_hides (h : s.Hides key) : s.field key = .error (.unbound key) := by
  rw [field, h.1]
  rfl

theorem field_filled_of_hides (h : s.Hides key) : ∃ v, s.filled.field key = .ok v := by
  obtain ⟨-, v, hv, hmem⟩ := h
  cases hfound : s.filled.find? key with
  | none =>
      rw [find?_eq_entries, entries_filled, Entries.find?_eq_none_iff] at hfound
      exact absurd (Entries.mem_filled_iff.2 ⟨hmem, hv⟩) (hfound v)
  | some w => exact fills_iff.1 ⟨w, (fills_of_find?_filled hfound).1, hfound⟩

theorem not_fills_of_hides (h : s.Hides key) : ¬ s.Fills key := by
  rintro ⟨v, hv, hfound⟩
  rw [h.1] at hfound
  exact hv (Option.some.inj hfound).symm

/-! ### What a scan makes of the fields of a lookup -/

section

variable {fieldKey : String → String}

theorem fieldKey?_injective (h : kind.fieldKey? name = some fieldKey) {field other : String}
    (heq : fieldKey field = fieldKey other) : field = other := by
  have hl := congrArg String.toList heq
  cases kind <;> cases h <;>
    simpa [Key.xpath, Key.regex, Key.jsonPath, toString, String.toList_inj] using hl

theorem attributeOf_of_fieldKey? (h : kind.fieldKey? name = some fieldKey) (s : ScopeStack)
    (value : String) :
    s.attributeOf name value kind = do
      let source ← s.field (fieldKey "source")
      let expression ← s.field (fieldKey "expression")
      return BoundAttribute.ofFields source expression (s.target name) kind := by
  cases kind <;> cases h <;> rfl

theorem attributeOf_of_fieldKey?_eq_none (h : kind.fieldKey? name = none) (s t : ScopeStack)
    (value : String) : s.attributeOf name value kind = t.attributeOf name value kind := by
  cases kind <;> first | rfl | cases h

theorem scan_of_firstOf? (h : s.firstOf? name = some (kind, value)) :
    s.scan name = (s.attributeOf name value kind).map some := by
  rw [scan, h]

/-- The scan of a name with a lookup reads the source, then the expression. -/
theorem scan_of_lookup (hfirst : s.firstOf? name = some (kind, value))
    (hkind : kind.fieldKey? name = some fieldKey) :
    s.scan name = do
      let source ← s.field (fieldKey "source")
      let expression ← s.field (fieldKey "expression")
      return some (BoundAttribute.ofFields source expression (s.target name) kind) := by
  rw [scan_of_firstOf? hfirst, attributeOf_of_fieldKey? hkind]
  cases s.field (fieldKey "source") with
  | error f => rfl
  | ok source => cases s.field (fieldKey "expression") <;> rfl

/-- A scan fails only for lack of a field of a lookup. -/
theorem of_scan_error {f : ResolutionFault} (h : s.scan name = .error f) :
    ∃ (kind : AttributeKind) (fieldKey : String → String) (field : String),
      kind.fieldKey? name = some fieldKey ∧ f = .unbound (fieldKey field) := by
  cases hfirst : s.firstOf? name with
  | none => rw [scan, hfirst] at h; cases h
  | some found =>
      obtain ⟨kind, value⟩ := found
      cases hkind : kind.fieldKey? name with
      | none =>
          rw [scan_of_firstOf? hfirst] at h
          cases kind <;> first | cases h | cases hkind
      | some fieldKey =>
          rw [scan_of_lookup hfirst hkind] at h
          cases hsource : s.field (fieldKey "source") with
          | error e =>
              rw [hsource] at h
              cases h
              exact ⟨kind, fieldKey, _, hkind, eq_unbound_of_field hsource⟩
          | ok source =>
              rw [hsource] at h
              cases hexpression : s.field (fieldKey "expression") with
              | error e =>
                  rw [hexpression] at h
                  cases h
                  exact ⟨kind, fieldKey, _, hkind, eq_unbound_of_field hexpression⟩
              | ok expression => rw [hexpression] at h; cases h

/-- The key of a field holds a slash. -/
theorem slash_mem_of_fieldKey? (h : kind.fieldKey? name = some fieldKey) (field : String) :
    '/' ∈ (fieldKey field).toList := by
  cases kind <;> cases h <;> simp [Key.xpath, Key.regex, Key.jsonPath, toString]

end

/-! ### The scan with the empty entries and without them -/

theorem target_of_hides (h : s.Hides (Key.xpath name "targetType")) :
    s.target name = TargetType.text.word := by
  rw [target, findWord?, h.1]
  rfl

theorem target_filled (h : s.Hides (Key.xpath name "targetType") →
      s.filled.target name = TargetType.text.word) : s.filled.target name = s.target name := by
  by_cases hhides : s.Hides (Key.xpath name "targetType")
  · rw [h hhides, target_of_hides hhides]
  · rw [target, target, findWord?_filled hhides]

theorem scan_ne_of_overlooks (h : s.Overlooks name) : s.filled.scan name ≠ s.scan name := by
  intro heq
  cases h with
  | @source kind value fieldKey hfirst hkind hhides =>
      obtain ⟨v, hv⟩ := field_filled_of_hides hhides
      rw [scan_of_lookup ((firstOf?_filled s name).trans hfirst) hkind, scan_of_lookup hfirst hkind,
        hv, field_of_hides hhides] at heq
      -- without the empty entries nothing is said of the source, whatever becomes of the expression
      cases hexpression : s.filled.field (fieldKey "expression") with
      | ok w =>
          rw [hexpression] at heq
          cases heq
      | error f =>
          rw [hexpression, eq_unbound_of_field hexpression] at heq
          have hkey := ResolutionFault.unbound.inj (Except.error.inj heq)
          exact absurd (fieldKey?_injective hkind hkey) (by decide)
  | @expression kind value fieldKey hfirst hkind hfills hhides =>
      obtain ⟨v, hv⟩ := fills_iff.1 hfills
      obtain ⟨w, hw⟩ := field_filled_of_hides hhides
      have hsource := field_filled fun hhides => not_fills_of_hides hhides hfills
      rw [scan_of_lookup ((firstOf?_filled s name).trans hfirst) hkind, scan_of_lookup hfirst hkind,
        hsource, hv, hw, field_of_hides hhides] at heq
      cases heq
  | @target value hfirst hsource hexpression hhides htarget =>
      obtain ⟨v, hv⟩ := fills_iff.1 hsource
      obtain ⟨w, hw⟩ := fills_iff.1 hexpression
      have hsource := field_filled fun hhides => not_fills_of_hides hhides hsource
      have hexpression := field_filled fun hhides => not_fills_of_hides hhides hexpression
      rw [scan_of_lookup ((firstOf?_filled s name).trans hfirst) rfl, scan_of_lookup hfirst rfl,
        hsource, hexpression, hv, hw] at heq
      have hword := (BoundAttribute.xpath.inj (Option.some.inj (Except.ok.inj heq))).2.2
      exact htarget (hword.trans (target_of_hides hhides))

theorem scan_filled_of_not_overlooks (h : ¬ s.Overlooks name) :
    s.filled.scan name = s.scan name := by
  cases hfirst : s.firstOf? name with
  | none => rw [scan, scan, firstOf?_filled, hfirst]
  | some found =>
      obtain ⟨kind, value⟩ := found
      have hfirst' := (firstOf?_filled s name).trans hfirst
      cases hkind : kind.fieldKey? name with
      | none =>
          rw [scan_of_firstOf? hfirst, scan_of_firstOf? hfirst',
            attributeOf_of_fieldKey?_eq_none hkind]
      | some fieldKey =>
          rw [scan_of_lookup hfirst hkind, scan_of_lookup hfirst' hkind,
            field_filled fun hhides => h (.source hfirst hkind hhides)]
          cases hsource : s.field (fieldKey "source") with
          | error f => rfl
          | ok v =>
              have hfills := fills_iff.2 ⟨v, hsource⟩
              rw [field_filled fun hhides => h (.expression hfirst hkind hfills hhides)]
              cases hexpression : s.field (fieldKey "expression") with
              | error f => rfl
              | ok w =>
                  have hfills' := fills_iff.2 ⟨w, hexpression⟩
                  cases kind with
                  | xpath =>
                      cases hkind
                      rw [target_filled fun hhides => not_not.1 fun htarget =>
                        h (.target hfirst hfills hfills' hhides htarget)]
                  | _ => rfl

/-- **Empty bindings count as absent, but for the fields of lookups.**  Without the empty entries of
all its scopes, a stack has the same first entry for every name.  A scan ends in the same way with
them and without them exactly when it does not come upon a field of a lookup that is empty where it
is found and bound to something further out: the source, the expression if there is a source, or
what an XPath lookup is to give, if there are both and it would be something else than a text. -/
theorem empty_counts_as_absent (s : ScopeStack) (name : String) :
    s.filled.firstOf? name = s.firstOf? name ∧
      (s.filled.scan name = s.scan name ↔ ¬ s.Overlooks name) :=
  ⟨firstOf?_filled s name, fun heq hover => scan_ne_of_overlooks hover heq,
    scan_filled_of_not_overlooks⟩

/-- An empty text does not hide the one in an outer scope. -/
example : (empty.run [.set "note/text" "outer", .push .page "page", .set "note/text" ""]).scan
    "note" = .ok (some (.literal "outer")) := rfl

/-- The source of a word is a topic, and empty in the page scope. -/
def wordStack : ScopeStack := empty.run [.set "topic" "hello world",
  .set "word/regex/source" "topic", .set "word/regex/expression" "[a-z]+", .push .page "page",
  .set "word/regex/source" ""]

/-- Without the empty entry the word is looked up in the topic; with it there is no source. -/
theorem emptied_source_is_unbound :
    wordStack.filled.scan "word" = .ok (some (.regex "topic" "[a-z]+")) ∧
      wordStack.scan "word" = .error (.unbound "word/regex/source") :=
  ⟨rfl, rfl⟩

end ScopeStack

end Bindery
