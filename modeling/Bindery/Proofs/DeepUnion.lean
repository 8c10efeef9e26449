import Bindery.Proofs.OverlayOrder

/-!
# Bindery — Proofs — Deep union

What a layer laid over a value has at a path.  Where the upper value has something, that is laid
over what the lower one has there, so it takes its place unless both are objects
(`Json.at?_merge_of_some`).  Where it has nothing, the lower value shows through, unless the upper
one hides it: on the way to the path it has something that is no object, or an object in the place
of something else (`Json.Hides`).

A layer whose fields are in order changes nothing when it is laid a second time
(`Json.merge_merge_self`): its fields are inserted one by one, each of them can be inserted last
(`Json.mergeFields_insertField`), and what is inserted twice is there once.
-/

namespace Bindery.Json

variable {b o l u v : Json} {key : String} {path : List String}
  {fields upper : List (String × Json)}

/-- A value is an object. -/
def IsObject (v : Json) : Prop := ∃ fields, v = .object fields

/-! ### What is laid over what -/

theorem merge_object (fields upper : List (String × Json)) :
    merge (.object fields) (.object upper) = .object (mergeFields fields upper) := by
  rw [merge]

/-- A layer takes the place of what is below unless both are objects. -/
theorem merge_eq_right (h : ¬ (b.IsObject ∧ o.IsObject)) : merge b o = o := by
  cases o with
  | object upper =>
      refine merge_of_fields?_eq_none ?_ _
      cases b with
      | object fields => exact absurd ⟨⟨fields, rfl⟩, ⟨upper, rfl⟩⟩ h
      | _ => rfl
  | _ => rw [merge]; simp

/-! ### Paths -/

theorem at?_append (start rest : List String) (v : Json) :
    at? (start ++ rest) v = (at? start v).bind (at? rest) := by
  induction start generalizing v with
  | nil => rfl
  | cons key start ih =>
      show (lookup key v.fieldsOrNone).bind (at? (start ++ rest)) =
        ((lookup key v.fieldsOrNone).bind (at? start)).bind (at? rest)
      rw [Option.bind_assoc]
      exact Option.bind_congr fun w _ => ih w

/-- Nothing stands below a value that is no object. -/
theorem at?_of_not_isObject (h : ¬ v.IsObject) (hpath : path ≠ []) : at? path v = none := by
  cases path with
  | nil => exact absurd rfl hpath
  | cons key path =>
      cases v with
      | object fields => exact absurd ⟨fields, rfl⟩ h
      | _ => rfl

theorem isObject_of_at?_cons (h : at? (key :: path) v ≠ none) : v.IsObject := by
  by_contra hnot
  exact h (at?_of_not_isObject hnot (List.cons_ne_nil _ _))

/-- Where the upper value has something at a path, it is laid over what the lower one has there. -/
theorem at?_merge_of_some (ho : o.IsCanonical) (h : at? path o = some u) :
    at? path (merge b o) = some ((at? path b).elim u fun l => merge l u) := by
  induction path generalizing b o with
  | nil =>
      cases h
      rfl
  | cons key path ih =>
      obtain ⟨upper, rfl⟩ := isObject_of_at?_cons (h ▸ Option.some_ne_none u)
      by_cases hb : b.IsObject
      · obtain ⟨fields, rfl⟩ := hb
        obtain ⟨v, hv, h⟩ := Option.bind_eq_some_iff.1 h
        have hv : lookup key upper = some v := hv
        rw [merge_object]
        simp only [at?, fieldsOrNone_object]
        rw [lookup_mergeFields ho.1, hv]
        cases lookup key fields with
        | none => exact h
        | some l => exact ih (FieldsCanonical.lookup ho.2 hv) h
      · rw [merge_eq_right fun hboth => hb hboth.1,
          at?_of_not_isObject hb (List.cons_ne_nil _ _)]
        exact h

/-- A layer hides what is below a path that leads past one of its values that is no object, or past
an object in the place of a value that is none. -/
def Hides (b o : Json) (path : List String) : Prop :=
  ∃ start u, start <+: path ∧ start ≠ path ∧ at? start o = some u ∧
    (¬ u.IsObject ∨ ∃ l, at? start b = some l ∧ ¬ l.IsObject)

/-- A layer that hides a path has its own value at a start of it, as it was before. -/
theorem Hides.exists_at?_merge (h : Hides b o path) (ho : o.IsCanonical) :
    ∃ start rest u, path = start ++ rest ∧ at? start o = some u ∧
      at? start (merge b o) = some u := by
  obtain ⟨start, u, ⟨rest, rfl⟩, -, hu, hstop⟩ := h
  refine ⟨start, rest, u, rfl, hu, ?_⟩
  rw [at?_merge_of_some ho hu]
  cases hl : at? start b with
  | none => rfl
  | some l =>
      refine congrArg some (merge_eq_right fun ⟨hobject, hobject'⟩ => ?_)
      rcases hstop with hnot | ⟨l', hl', hnot⟩
      · exact hnot hobject'
      · cases hl.symm.trans hl'
        exact hnot hobject

/-- At a path that is hidden there is what the layer has there. -/
theorem at?_merge_of_hides (ho : o.IsCanonical) (h : Hides b o path) :
    at? path (merge b o) = at? path o := by
  obtain ⟨start, rest, u, rfl, hu, hmerge⟩ := h.exists_at?_merge ho
  rw [at?_append, at?_append, hu, hmerge]

theorem Hides.of_start_nil (hpath : path ≠ []) (h : ¬ (b.IsObject ∧ o.IsObject)) :
    Hides b o path := by
  refine ⟨[], o, List.nil_prefix, hpath.symm, rfl, ?_⟩
  by_cases hobject : o.IsObject
  · exact .inr ⟨b, rfl, fun hbelow => h ⟨hbelow, hobject⟩⟩
  · exact .inl hobject

/-- What is hidden in two fields is hidden in their objects. -/
theorem Hides.cons (h : Hides l u path) (hl : lookup key fields = some l)
    (hu : lookup key upper = some u) : Hides (.object fields) (.object upper) (key :: path) := by
  obtain ⟨start, w, hprefix, hne, hw, hstop⟩ := h
  refine ⟨key :: start, w, List.cons_prefix_cons.2 ⟨rfl, hprefix⟩, ?_, ?_, ?_⟩
  · simpa using hne
  · simpa [at?, fieldsOrNone_object, hu] using hw
  · simpa [at?, fieldsOrNone_object, hl] using hstop

/-- Where the upper value has nothing at a path that it does not hide, there is what the lower one
has. -/
theorem at?_merge_of_none (ho : o.IsCanonical) (h : at? path o = none) (hshown : ¬ Hides b o path) :
    at? path (merge b o) = at? path b := by
  induction path generalizing b o with
  | nil => cases h
  | cons key path ih =>
      have hboth : b.IsObject ∧ o.IsObject := by
        by_contra hnot
        exact hshown (.of_start_nil (List.cons_ne_nil _ _) hnot)
      obtain ⟨⟨fields, rfl⟩, ⟨upper, rfl⟩⟩ := hboth
      rw [merge_object]
      simp only [at?, fieldsOrNone_object] at h ⊢
      rw [lookup_mergeFields ho.1]
      cases hu : lookup key upper with
      | none => rfl
      | some v =>
          rw [hu] at h
          cases hl : lookup key fields with
          | none => exact h
          | some l =>
              exact ih (FieldsCanonical.lookup ho.2 hu) h fun hhides => hshown (hhides.cons hl hu)

/-! ### Layers laid twice -/

/-- A field that a layer does not have can be inserted before the layer is laid or after it. -/
theorem mergeFields_insertField (h : key ∉ keys upper) (v : Json) (fields : List (String × Json)) :
    mergeFields (insertField key v fields) upper =
      insertField key v (mergeFields fields upper) := by
  induction upper generalizing fields with
  | nil => rw [mergeFields, mergeFields]
  | cons f rest ih =>
      obtain ⟨k, w⟩ := f
      obtain ⟨hne, hrest⟩ := not_or.1 fun hor => h (List.mem_cons.2 hor)
      rw [mergeFields_cons, mergeFields_cons, lookup_insertField_other (Ne.symm hne),
        insertField_comm (Ne.symm hne), ih hrest]

/-- Fields in order that are laid over nothing stay as they are. -/
theorem mergeFields_nil (h : Ordered upper) : mergeFields [] upper = upper := by
  induction upper with
  | nil => rw [mergeFields]
  | cons f rest ih =>
      obtain ⟨key, v⟩ := f
      obtain ⟨hfirst, hrest⟩ := ordered_cons.1 h
      have hnew : key ∉ keys rest := fun hmem => lt_irrefl _ (hfirst key hmem)
      rw [mergeFields_cons, mergeFields_insertField hnew, ih hrest]
      exact insertField_of_lt hfirst

/-- Fields that change nothing when they are laid twice make a layer that does not. -/
theorem mergeFields_mergeFields_self (hordered : Ordered upper)
    (h : ∀ f ∈ upper, ∀ below, merge (merge below f.2) f.2 = merge below f.2)
    (fields : List (String × Json)) :
    mergeFields (mergeFields fields upper) upper = mergeFields fields upper := by
  induction upper generalizing fields with
  | nil => rw [mergeFields]
  | cons f rest ih =>
      obtain ⟨key, v⟩ := f
      obtain ⟨hfirst, hordered⟩ := ordered_cons.1 hordered
      obtain ⟨hv, hrest⟩ := List.forall_mem_cons.1 h
      have hnew : key ∉ keys rest := fun hmem => lt_irrefl _ (hfirst key hmem)
      -- laid over nothing, the value of the field is its own second layer too
      have hself : merge v v = v := by
        have hnull : merge .null v = v := merge_of_fields?_eq_none rfl v
        have hsettled := hv .null
        rwa [hnull] at hsettled
      generalize hw : (lookup key fields).elim v (fun l => merge l v) = w
      have hagain : merge w v = w := by
        rw [← hw]
        cases lookup key fields with
        | none => exact hself
        | some l => exact hv l
      have honce : mergeFields fields ((key, v) :: rest) =
          insertField key w (mergeFields fields rest) := by
        rw [mergeFields_cons, hw, mergeFields_insertField hnew]
      calc mergeFields (mergeFields fields ((key, v) :: rest)) ((key, v) :: rest)
          = mergeFields (insertField key w (insertField key w (mergeFields fields rest))) rest := by
            rw [honce, mergeFields_cons, lookup_insertField_self, Option.elim_some, hagain]
        _ = insertField key w (mergeFields (mergeFields fields rest) rest) := by
            rw [insertField_insertField_self, mergeFields_insertField hnew]
        _ = mergeFields fields ((key, v) :: rest) := by rw [ih hordered hrest, honce]

mutual

/-- A layer that is laid a second time changes nothing. -/
theorem merge_merge_self : ∀ {o : Json}, o.IsCanonical → ∀ b, merge (merge b o) o = merge b o
  | .object upper, ho, b => by
      have hfields := mergeFields_mergeFields_self ho.1 (merge_merge_self_of_mem ho.2)
      by_cases hb : b.IsObject
      · obtain ⟨fields, rfl⟩ := hb
        rw [merge_object, merge_object, hfields]
      · -- the layer is then the whole, and it comes of laying itself over nothing
        have hself := hfields []
        rw [mergeFields_nil ho.1] at hself
        rw [merge_eq_right fun hboth => hb hboth.1, merge_object, hself]
  | .null, _, _ | .bool _, _, _ | .number _, _, _ | .string _, _, _ | .array _, _, _ => by
      refine merge_eq_right fun hboth => ?_
      obtain ⟨-, fields, hobject⟩ := hboth
      cases hobject

theorem merge_merge_self_of_mem : ∀ {upper : List (String × Json)}, FieldsCanonical upper →
    ∀ f ∈ upper, ∀ b, merge (merge b f.2) f.2 = merge b f.2
  | [], _ => fun _ hf => absurd hf List.not_mem_nil
  | (_, _) :: _, h => List.forall_mem_cons.2
      ⟨merge_merge_self h.1, merge_merge_self_of_mem h.2⟩

end

/-- **Laying one value over another is a union at every depth, and the upper one comes first.**
Where the upper value has something at a path, the result has there what both of them have, one laid
over the other, if both are objects, and what the upper one has otherwise.  Where the upper value
has nothing, the result has what the lower one has, but nothing at all if the upper value hides it.
So laying a value a second time changes nothing. -/
theorem merge_deep_union (b : Json) {o : Json} (ho : o.IsCanonical) :
    (∀ path u, at? path o = some u →
      (∀ l, at? path b = some l → l.IsObject → u.IsObject →
        at? path (merge b o) = some (merge l u)) ∧
      (¬ ((∃ l, at? path b = some l ∧ l.IsObject) ∧ u.IsObject) →
        at? path (merge b o) = some u)) ∧
      (∀ path, at? path o = none →
        (Hides b o path → at? path (merge b o) = none) ∧
          (¬ Hides b o path → at? path (merge b o) = at? path b)) ∧
      merge (merge b o) o = merge b o := by
  refine ⟨fun path u hu => ⟨fun l hl _ _ => ?_, fun hnot => ?_⟩,
    fun path hnone => ⟨fun h => ?_, ?_⟩, merge_merge_self ho b⟩
  · rw [at?_merge_of_some ho hu, hl]
    rfl
  · rw [at?_merge_of_some ho hu]
    cases hl : at? path b with
    | none => rfl
    | some l =>
        exact congrArg some (merge_eq_right fun hboth => hnot ⟨⟨l, hl, hboth.1⟩, hboth.2⟩)
  · rw [at?_merge_of_hides ho h, hnone]
  · exact at?_merge_of_none ho hnone

/-- A property below, and a number. -/
def mottoBelow : Json :=
  .object [("properties", .object [("motto", .string "festina lente")]),
    ("throttle_ms", .number (.int 200))]

/-- Another property above, and an object in the place of the number. -/
def noteAbove : Json :=
  .object [("properties", .object [("note", .string "7")]),
    ("throttle_ms", .object [("least", .number (.int 1))])]

/-- The motto is on no path that is hidden. -/
theorem motto_not_hidden : ¬ Hides mottoBelow noteAbove ["properties", "motto"] := by
  rintro ⟨start, u, hprefix, hne, hu, hstop⟩
  have hstart : start = [] ∨ start = ["properties"] := by
    simp only [List.prefix_cons_iff, List.prefix_nil] at hprefix
    rcases hprefix with rfl | ⟨_, rfl, rfl | ⟨_, rfl, rfl⟩⟩
    · exact .inl rfl
    · exact .inr rfl
    · exact absurd rfl hne
  rcases hstart with rfl | rfl <;> cases hu <;>
    exact hstop.elim (· ⟨_, rfl⟩) fun ⟨_, hl, hnot⟩ => hnot ⟨_, (Option.some.inj hl).symm⟩

theorem motto_shows_through : noteAbove.IsCanonical ∧
    (at? ["properties", "motto"] noteAbove = none ∧
      at? ["properties", "motto"] (merge mottoBelow noteAbove) = some (.string "festina lente")) ∧
    (Hides mottoBelow noteAbove ["throttle_ms", "most"] ∧
      at? ["throttle_ms", "most"] (merge mottoBelow noteAbove) = none) ∧
    merge (merge mottoBelow noteAbove) noteAbove = merge mottoBelow noteAbove := by
  have hcanonical : noteAbove.IsCanonical :=
    ⟨by decide +kernel, ⟨by decide +kernel, trivial, trivial⟩,
      ⟨by decide +kernel, trivial, trivial⟩, trivial⟩
  have hhides : Hides mottoBelow noteAbove ["throttle_ms", "most"] := by
    refine ⟨["throttle_ms"], _, by decide, by decide, rfl, .inr ⟨_, rfl, ?_⟩⟩
    rintro ⟨_, hobject⟩
    cases hobject
  obtain ⟨-, habsent, htwice⟩ := merge_deep_union mottoBelow hcanonical
  exact ⟨hcanonical, ⟨rfl, (habsent _ rfl).2 motto_not_hidden⟩, ⟨hhides, (habsent _ rfl).1 hhides⟩,
    htwice⟩

end Bindery.Json
