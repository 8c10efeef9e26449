import Bindery.Settings.Overlay
import Mathlib.Order.Defs.LinearOrder
import Mathlib.Data.String.Basic

/-!
# Bindery — Proofs — Layers

JSON objects in layers.  A layer laid over an object gives a field its value, or what both of them
have under it where both are objects, and leaves every field that it does not have
(`lookup_mergeFields`).

It keeps the fields of an object in the order of their keys, so each key stands once and is told by
looking it up.  What is read from a text has its fields in this order at every depth
(`isCanonical_canonical`).
-/

namespace Bindery.Json

/-! ### Fields in order -/

/-- The keys of fields, in order. -/
def keys (fields : List (String × Json)) : List String := fields.map Prod.fst

/-- Fields stand in the order of their keys, each once. -/
def Ordered (fields : List (String × Json)) : Prop := (keys fields).Pairwise (· < ·)

theorem ordered_nil : Ordered [] := List.Pairwise.nil

variable {key other : String} {value : Json} {fields upper : List (String × Json)}

theorem ordered_cons {v : Json} :
    Ordered ((key, v) :: fields) ↔ (∀ k ∈ keys fields, key < k) ∧ Ordered fields :=
  List.pairwise_cons

theorem mem_keys_insertField :
    other ∈ keys (insertField key value fields) ↔ other = key ∨ other ∈ keys fields := by
  induction fields with
  | nil => simp [insertField, keys]
  | cons f rest ih =>
      obtain ⟨k, v⟩ := f
      unfold insertField
      split
      next heq => simp [keys, heq]
      next =>
        split
        · simp [keys]
        · have hcons (l : List (String × Json)) : keys ((k, v) :: l) = k :: keys l := rfl
          rw [hcons, hcons, List.mem_cons, ih, List.mem_cons]
          tauto

theorem Ordered.insertField (h : Ordered fields) : Ordered (insertField key value fields) := by
  induction fields with
  | nil => exact List.pairwise_singleton _ _
  | cons f rest ih =>
      obtain ⟨k, v⟩ := f
      obtain ⟨hfirst, hrest⟩ := ordered_cons.1 h
      unfold Json.insertField
      split
      next heq => exact heq ▸ h
      next hne =>
        split
        next hlt =>
          refine ordered_cons.2 ⟨List.forall_mem_cons.2 ⟨hlt, fun k' hk' => ?_⟩, h⟩
          exact hlt.trans (hfirst k' hk')
        next hle =>
          refine ordered_cons.2 ⟨fun k' hk' => ?_, ih hrest⟩
          rcases mem_keys_insertField.1 hk' with rfl | hk'
          · exact lt_of_le_of_ne (not_lt.1 hle) (Ne.symm hne)
          · exact hfirst k' hk'

/-- A field whose key comes before all others is put in front. -/
theorem insertField_of_lt (h : ∀ k ∈ keys fields, key < k) :
    insertField key value fields = (key, value) :: fields := by
  cases fields with
  | nil => rfl
  | cons f rest =>
      have hlt : key < f.1 := h f.1 List.mem_cons_self
      rw [insertField, if_neg hlt.ne, if_pos hlt]

/-- A key that no field has is not found. -/
theorem lookup_eq_none (h : key ∉ keys fields) : lookup key fields = none := by
  induction fields with
  | nil => rfl
  | cons f rest ih =>
      obtain ⟨hne, hrest⟩ := not_or.1 fun hor => h (List.mem_cons.2 hor)
      rw [lookup, if_neg (Ne.symm hne)]
      exact ih hrest

/-- What is found is a field. -/
theorem mem_of_lookup (h : lookup key fields = some value) : (key, value) ∈ fields := by
  induction fields with
  | nil => cases h
  | cons f rest ih =>
      obtain ⟨k, v⟩ := f
      rw [lookup] at h
      split at h
      next heq =>
        cases h
        exact heq ▸ List.mem_cons_self
      next => exact List.mem_cons_of_mem _ (ih h)

/-! ### Canonical values -/

theorem ordered_canonicalFields (done : List (String × Json)) (h : Ordered done) :
    ∀ fields, Ordered (canonicalFields done fields)
  | [] => by rwa [canonicalFields]
  | (_, _) :: rest => by
      rw [canonicalFields]
      exact ordered_canonicalFields _ h.insertField rest

theorem fieldsCanonical_insertField (hvalue : value.IsCanonical) (h : FieldsCanonical fields) :
    FieldsCanonical (insertField key value fields) := by
  induction fields with
  | nil => exact ⟨hvalue, trivial⟩
  | cons f rest ih =>
      obtain ⟨k, v⟩ := f
      unfold insertField
      split
      · exact ⟨hvalue, h.2⟩
      · split
        · exact ⟨hvalue, h⟩
        · exact ⟨h.1, ih h.2⟩

mutual

/-- A value made canonical is canonical. -/
theorem isCanonical_canonical : ∀ v : Json, v.canonical.IsCanonical
  | .array items => by
      rw [canonical, IsCanonical]
      exact areCanonical_canonicalItems items
  | .object fields => by
      rw [canonical, IsCanonical]
      exact ⟨ordered_canonicalFields [] ordered_nil fields,
        fieldsCanonical_canonicalFields [] trivial fields⟩
  | .null | .bool _ | .number _ | .string _ => trivial

theorem areCanonical_canonicalItems : ∀ items : List Json, AreCanonical (canonicalItems items)
  | [] => trivial
  | v :: rest => by
      rw [canonicalItems]
      exact ⟨isCanonical_canonical v, areCanonical_canonicalItems rest⟩

theorem fieldsCanonical_canonicalFields (done : List (String × Json)) (h : FieldsCanonical done) :
    ∀ fields, FieldsCanonical (canonicalFields done fields)
  | [] => by rwa [canonicalFields]
  | (_, v) :: rest => by
      rw [canonicalFields]
      exact fieldsCanonical_canonicalFields _
        (fieldsCanonical_insertField (isCanonical_canonical v) h) rest

end

theorem FieldsCanonical.lookup (h : FieldsCanonical fields)
    (hfound : lookup key fields = some value) : value.IsCanonical := by
  induction fields with
  | nil => cases hfound
  | cons f rest ih =>
      obtain ⟨k, v⟩ := f
      rw [Json.lookup] at hfound
      split at hfound
      · cases hfound
        exact h.1
      · exact ih h.2 hfound

/-- Each key has its value made canonical. -/
theorem lookup_canonicalFields (h : (keys fields).Nodup) (done : List (String × Json)) :
    lookup key (canonicalFields done fields) =
      ((lookup key fields).map canonical).or (lookup key done) := by
  induction fields generalizing done with
  | nil =>
      rw [canonicalFields]
      rfl
  | cons f rest ih =>
      obtain ⟨k, v⟩ := f
      obtain ⟨hk, hrest⟩ := List.nodup_cons.1 h
      rw [canonicalFields, ih hrest, lookup]
      by_cases hkey : k = key
      · subst hkey
        rw [if_pos rfl, lookup_eq_none hk, lookup_insertField_self]
        rfl
      · rw [if_neg hkey, lookup_insertField_other (Ne.symm hkey)]

/-- Where every value is canonical, making what is found so changes nothing. -/
theorem map_canonical_lookup (h : ∀ f ∈ fields, f.2.canonical = f.2) :
    (lookup key fields).map canonical = lookup key fields := by
  induction fields with
  | nil => rfl
  | cons f rest ih =>
      obtain ⟨hf, hrest⟩ := List.forall_mem_cons.1 h
      rw [lookup]
      split
      · exact congrArg some hf
      · exact ih hrest

/-! ### Laying one object over another -/

theorem Ordered.mergeFields (h : Ordered fields) : Ordered (mergeFields fields upper) := by
  induction upper generalizing fields with
  | nil => rwa [Json.mergeFields]
  | cons f rest ih =>
      rw [Json.mergeFields]
      split <;> exact ih h.insertField

/-- What a layer makes of a field: it lays its own value over the one below, or leaves that where it
has none. -/
def layered (lower upper : Option Json) : Option Json :=
  match upper with
  | none => lower
  | some u => some (lower.elim u fun l => merge l u)

/-- A layer is laid field by field. -/
theorem mergeFields_cons (v : Json) :
    mergeFields fields ((key, v) :: upper) =
      mergeFields (insertField key ((lookup key fields).elim v fun l => merge l v) fields)
        upper := by
  rw [mergeFields]
  cases lookup key fields <;> rfl

/-- Each field of a layered object is layered. -/
theorem lookup_mergeFields (h : Ordered upper) :
    lookup key (mergeFields fields upper) = layered (lookup key fields) (lookup key upper) := by
  induction upper generalizing fields with
  | nil =>
      rw [mergeFields]
      rfl
  | cons f rest ih =>
      obtain ⟨k, v⟩ := f
      obtain ⟨hfirst, hrest⟩ := ordered_cons.1 h
      rw [mergeFields_cons, ih hrest]
      by_cases hk : key = k
      · subst hk
        have hnone : lookup key rest = none :=
          lookup_eq_none fun hmem => lt_irrefl _ (hfirst key hmem)
        rw [hnone, lookup_insertField_self, lookup, if_pos rfl]
        rfl
      · rw [lookup_insertField_other hk, lookup, if_neg (Ne.symm hk)]

/-- Anything but an object gives place to what is laid over it. -/
theorem merge_of_fields?_eq_none {base : Json} (h : base.fields? = none) (v : Json) :
    merge base v = v := by
  cases v with
  | object upper =>
      cases base with
      | object fields => cases h
      | _ => rw [merge]; simp
  | _ => rw [merge]; simp

end Bindery.Json
