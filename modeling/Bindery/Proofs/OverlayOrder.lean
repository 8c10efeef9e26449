import Bindery.Proofs.Loading
import Mathlib.Data.List.Pairwise
import Mathlib.Data.List.Perm.Basic

/-!
# Bindery — Proofs — Overlay order

When the order of overlays does not matter.  Two paths are apart when neither of them is the start
of the other (`Apart`).  Setting values at two such paths gives the same in either order
(`Json.put_comm`), though both may make objects on the way that the other one goes through; and
neither takes away what the other one has set (`Json.at?_put_apart`).

So overlays whose paths are pairwise apart give the same value in every order, and every one of them
has its value there at the end (`overlays_commute`).  Of the environment, loading settings reads the
overlays only.
-/

namespace Bindery

namespace Json

variable {key other : String} {v w : Json} {path path' : List String}
  {fields : List (String × Json)}

/-! ### Inserting two fields -/

theorem insertField_insertField_self (key : String) (v w : Json)
    (fields : List (String × Json)) :
    insertField key v (insertField key w fields) = insertField key v fields := by
  induction fields with
  | nil => simp [insertField]
  | cons f rest ih =>
      obtain ⟨k, u⟩ := f
      by_cases heq : key = k
      · simp [insertField, heq]
      · by_cases hlt : key < k
        · simp [insertField, heq, hlt]
        · simp [insertField, heq, hlt, ih]

/-- Of two fields with keys in order, neither is put where the other one goes. -/
theorem insertField_comm_of_lt (h : key < other) (v w : Json) (fields : List (String × Json)) :
    insertField key v (insertField other w fields) =
      insertField other w (insertField key v fields) := by
  have hne : key ≠ other := h.ne
  have hnot : ¬ other < key := h.asymm
  induction fields with
  | nil => simp [insertField, hne, hne.symm, h, hnot]
  | cons f rest ih =>
      obtain ⟨k, u⟩ := f
      rcases lt_trichotomy other k with hother | rfl | hother
      · have hlt : key < k := h.trans hother
        simp [insertField, hne, hne.symm, h, hnot, hother, hother.ne, hlt, hlt.ne]
      · simp [insertField, hne, hne.symm, h, hnot]
      · rcases lt_trichotomy key k with hlt | rfl | hlt
        · simp [insertField, hne.symm, hnot, hother.ne', hother.asymm, hlt, hlt.ne]
        · simp [insertField, hne.symm, hnot]
        · simp [insertField, hother.ne', hother.asymm, hlt.ne', hlt.asymm, ih]

theorem insertField_comm (h : key ≠ other) (v w : Json) (fields : List (String × Json)) :
    insertField key v (insertField other w fields) =
      insertField other w (insertField key v fields) := by
  rcases lt_or_gt_of_ne h with hlt | hlt
  · exact insertField_comm_of_lt hlt v w fields
  · exact (insertField_comm_of_lt hlt w v fields).symm

/-! ### Values at paths -/

/-- What stands at a path through objects. -/
def at? : List String → Json → Option Json
  | [], v => some v
  | key :: path, v => (lookup key v.fieldsOrNone).bind (at? path)

/-- A value put at a path; put at no path, it is the whole. -/
def put (v : Json) : List String → Json → Json
  | [], _ => v
  | key :: path, root =>
    .object (insertField key (put v path ((lookup key root.fieldsOrNone).getD (.object [])))
      root.fieldsOrNone)

theorem fieldsOrNone_object (fields : List (String × Json)) :
    (object fields).fieldsOrNone = fields := rfl

/-- At a path that leads somewhere, a value is set by putting it there. -/
theorem setAt_eq_put (v : Json) (h : path ≠ []) (root : Json) :
    setAt v path root = put v path root := by
  induction path generalizing root with
  | nil => exact absurd rfl h
  | cons key path ih =>
      cases path with
      | nil => rfl
      | cons next path =>
          show Json.object (insertField key (setAt v (next :: path) _) _) = _
          rw [ih (List.cons_ne_nil _ _)]
          rfl

/-- Neither of two paths is the start of the other. -/
def Apart (path path' : List String) : Prop := ¬ path <+: path' ∧ ¬ path' <+: path

instance : DecidableRel Apart := fun _ _ => inferInstanceAs (Decidable (_ ∧ _))

namespace Apart

theorem symm (h : Apart path path') : Apart path' path := And.symm h

theorem ne_nil (h : Apart path path') : path ≠ [] := by
  rintro rfl
  exact h.1 (List.nil_prefix)

/-- Paths that are apart begin with different keys, or go on apart behind the same one. -/
theorem cons_iff : Apart (key :: path) (other :: path') ↔
    key ≠ other ∨ key = other ∧ Apart path path' := by
  simp only [Apart, List.cons_prefix_cons]
  by_cases heq : key = other
  · simp [heq]
  · simp [heq, Ne.symm heq]

end Apart

/-- Values are put at paths that are apart in either order. -/
theorem put_comm (h : Apart path path') (v w root : Json) :
    put v path (put w path' root) = put w path' (put v path root) := by
  induction path generalizing path' root with
  | nil => exact absurd rfl h.ne_nil
  | cons key path ih =>
      cases path' with
      | nil => exact absurd rfl h.symm.ne_nil
      | cons other path' =>
          rcases Apart.cons_iff.1 h with hne | ⟨rfl, htail⟩
          · simp only [put, fieldsOrNone_object]
            rw [lookup_insertField_other hne, lookup_insertField_other hne.symm,
              insertField_comm hne]
          · simp only [put, fieldsOrNone_object, lookup_insertField_self,
              insertField_insertField_self, Option.getD_some]
            rw [ih htail]

/-- What is put at a path stands there. -/
theorem at?_put_self (v : Json) (path : List String) (root : Json) :
    at? path (put v path root) = some v := by
  induction path generalizing root with
  | nil => rfl
  | cons key path ih =>
      simp only [put, at?, fieldsOrNone_object, lookup_insertField_self, Option.bind_some]
      exact ih _

/-- What is put at a path leaves what stands at one that is apart from it. -/
theorem at?_put_apart (h : Apart path path') (w root : Json) :
    at? path (put w path' root) = at? path root := by
  induction path generalizing path' root with
  | nil => exact absurd rfl h.ne_nil
  | cons key path ih =>
      cases path' with
      | nil => exact absurd rfl h.symm.ne_nil
      | cons other path' =>
          rcases Apart.cons_iff.1 h with hne | ⟨rfl, htail⟩
          · simp only [put, at?, fieldsOrNone_object, lookup_insertField_other hne]
          · simp only [put, at?, fieldsOrNone_object, lookup_insertField_self, Option.bind_some]
            rw [ih htail]
            cases lookup key root.fieldsOrNone with
            | some inner => rfl
            | none =>
                -- the object that is made on the way has nothing at the rest of the path
                cases path with
                | nil => exact absurd rfl htail.ne_nil
                | cons next path => rfl

end Json

namespace Settings

open Json (at? put Apart)

variable {l order : List Overlay} {environment : List (String × String)}

theorem applyOverlay_eq_put {o : Overlay} (h : o.path ≠ []) (root : Json) :
    applyOverlay root o = put o.value o.path root :=
  Json.setAt_eq_put o.value h root

/-- The path of an overlay of an environment leads somewhere. -/
theorem path_ne_nil_of_mem_overlays {o : Overlay} (h : o ∈ overlays environment) :
    o.path ≠ [] := by
  obtain ⟨⟨name, raw⟩, -, hoverlay⟩ := List.mem_filterMap.1 h
  obtain ⟨rest, -, hrest⟩ := Option.bind_eq_some_iff.1 hoverlay
  cases hpath : pathOf rest with
  | nil =>
      rw [hpath] at hrest
      cases hrest
  | cons first path =>
      rw [hpath] at hrest
      cases hrest
      exact List.cons_ne_nil _ _

/-- The paths of overlays are pairwise apart. -/
def PairwiseApart (l : List Overlay) : Prop := l.Pairwise fun o o' => Apart o.path o'.path

theorem PairwiseApart.perm (h : PairwiseApart l) (hperm : order.Perm l) : PairwiseApart order :=
  (hperm.pairwise_iff fun hapart => Apart.symm hapart).2 h

/-- Overlays whose paths are apart are applied in either order. -/
theorem applyOverlay_comm {o o' : Overlay} (h : Apart o.path o'.path) (root : Json) :
    applyOverlay (applyOverlay root o) o' = applyOverlay (applyOverlay root o') o := by
  simp only [applyOverlay_eq_put h.ne_nil, applyOverlay_eq_put h.symm.ne_nil]
  exact Json.put_comm h.symm o'.value o.value root

/-- Overlays that are pairwise apart are applied in any order. -/
theorem foldl_applyOverlay_perm (h : PairwiseApart l) (hperm : order.Perm l) (root : Json) :
    order.foldl applyOverlay root = l.foldl applyOverlay root := by
  have hsymm : Std.Symm fun o o' : Overlay => Apart o.path o'.path := ⟨fun _ _ => Apart.symm⟩
  refine hperm.foldl_eq' (fun o ho o' ho' root => ?_) root
  by_cases heq : o = o'
  · rw [heq]
  · exact applyOverlay_comm ((h.perm hperm).forall ho ho' heq) root

/-- Overlays that are all apart from a path leave what stands there. -/
theorem at?_foldl_applyOverlay {path : List String} (h : ∀ o ∈ l, Apart path o.path)
    (root : Json) : at? path (l.foldl applyOverlay root) = at? path root := by
  induction l generalizing root with
  | nil => rfl
  | cons o rest ih =>
      obtain ⟨ho, hrest⟩ := List.forall_mem_cons.1 h
      rw [List.foldl_cons, ih hrest, applyOverlay_eq_put ho.symm.ne_nil,
        Json.at?_put_apart ho]

/-- At the end every overlay has its value at its path. -/
theorem at?_foldl_of_mem (h : PairwiseApart l) (hpaths : ∀ o ∈ l, o.path ≠ []) (root : Json)
    {o : Overlay} (ho : o ∈ l) : at? o.path (l.foldl applyOverlay root) = some o.value := by
  induction l generalizing root with
  | nil => cases ho
  | cons first rest ih =>
      obtain ⟨hfirst, hrest⟩ := List.pairwise_cons.1 h
      obtain ⟨hpath, hpaths⟩ := List.forall_mem_cons.1 hpaths
      rw [List.foldl_cons]
      rcases List.mem_cons.1 ho with rfl | ho
      · rw [at?_foldl_applyOverlay hfirst, applyOverlay_eq_put hpath, Json.at?_put_self]
      · exact ih hrest hpaths _ ho

/-- **Overlays that are apart commute.**  Where no path of the overlays of an environment is the
start of another one, applying them to any value gives the same in every order, and at the end each
of them has its value at its path.  So settings are loaded the same, in whatever order the variables
of the environment stand. -/
theorem overlays_commute (h : PairwiseApart (overlays environment)) :
    (∀ (root : Json) (order : List Overlay), order.Perm (overlays environment) →
      order.foldl applyOverlay root = (overlays environment).foldl applyOverlay root ∧
        ∀ o ∈ order, at? o.path (order.foldl applyOverlay root) = some o.value) ∧
      ∀ (host : Host) (directory path : Option String) (order : List (String × String)),
        order.Perm environment →
          load { host with environment := order } directory path =
            load { host with environment := environment } directory path := by
  refine ⟨fun root order hperm => ⟨foldl_applyOverlay_perm h hperm root, fun o ho => ?_⟩,
    fun host directory path order hperm => ?_⟩
  · have hpaths : ∀ o ∈ order, o.path ≠ [] :=
      fun o ho => path_ne_nil_of_mem_overlays (hperm.mem_iff.1 ho)
    exact at?_foldl_of_mem (h.perm hperm) hpaths root ho
  · have hoverlays : (overlays order).Perm (overlays environment) := hperm.filterMap _
    have hlaid (file : Json) : laid order file = laid environment file :=
      foldl_applyOverlay_perm h hoverlays _
    rw [load_eq, load_eq]
    simp only [hlaid]
    rfl

/-- Variables for one field and, in letters of either case, for two properties. -/
def separate : List (String × String) :=
  [("WEBBIND__Properties__motto", "festina lente"), ("WEBBIND__DRY_RUN", "true"),
    ("WEBBIND__PROPERTIES__note", "7")]

theorem overlays_commute_separate : PairwiseApart (overlays separate) ∧
    at? ["properties", "note"] ((overlays separate).reverse.foldl applyOverlay .null) =
      some (.string "7") ∧
    load { configured with environment := separate.reverse } (some "/home/ada/.config") none =
      load { configured with environment := separate } (some "/home/ada/.config") none := by
  have hapart : PairwiseApart (overlays separate) := by
    have hpaths : (overlays separate).map Overlay.path =
        [["properties", "motto"], ["dry_run"], ["properties", "note"]] := by decide +kernel
    have hlist : ((overlays separate).map Overlay.path).Pairwise Apart := by
      rw [hpaths]
      decide +kernel
    exact List.pairwise_map.1 hlist
  obtain ⟨horder, hload⟩ := overlays_commute hapart
  obtain ⟨-, hvalues⟩ := horder .null _ (List.reverse_perm _)
  have hnote : (⟨["properties", "note"], .string "7"⟩ : Overlay) ∈ (overlays separate).reverse :=
    List.mem_reverse.2 (List.mem_filterMap.2
      ⟨("WEBBIND__PROPERTIES__note", "7"), by simp [separate], rfl⟩)
  exact ⟨hapart, hvalues _ hnote, hload configured _ none _ (List.reverse_perm _)⟩

end Settings

end Bindery
