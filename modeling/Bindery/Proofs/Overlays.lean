import Bindery.Proofs.Layers
import Bindery.Settings.Reading

/-!
# Bindery — Proofs — Overlays

What environment variables say of settings.  A variable names a field in letters of either case, or
a property as it is written (`Target.isNamedBy`); its overlay sets the JSON value of the one or the
text of the other and nothing else (`overlay?_of_isNamedBy`, `find?_applyOverlay`).  Where every
variable with the mark names one of the two, the overlays of an environment leave each target with
what the last variable says that names it, and what was there before if none does
(`exists_overlaid`).
-/

namespace Bindery

/-! ### Pieces of a name -/

namespace Text

theorem pieces_of_not_infix {mark cs : List Char} (h : ¬ mark <:+: cs) : pieces mark cs = [cs] := by
  unfold pieces
  cases cs.length with
  | zero => rfl
  | succ n => rw [pieces.go, cutAt?_eq_none_iff.2 h]

theorem pieces_append {m : Char} {mark a b : List Char} (ha : m ∉ a) (hb : ¬ m :: mark <:+: b) :
    pieces (m :: mark) (a ++ m :: mark ++ b) = [a, b] := by
  have hlength : (a ++ m :: mark ++ b).length = (a ++ mark ++ b).length + 1 := by
    simp only [List.length_append, List.length_cons]
    omega
  unfold pieces
  rw [hlength, pieces.go, cutAt?_append (by simp) (not_infix_append_dropLast ha mark)]
  cases (a ++ mark ++ b).length with
  | zero => rfl
  | succ n =>
      show a :: pieces.go (m :: mark) (n + 1) b = [a, b]
      rw [pieces.go, cutAt?_eq_none_iff.2 hb]

theorem toList_lowerAscii (s : String) : (lowerAscii s).toList = s.toList.map Char.toLower := by
  simp [lowerAscii]

end Text

namespace Settings

open Json (lookup insertField Ordered)

/-! ### What a variable can name -/

/-- A part of settings that can be set by itself: a field, or one of the properties. -/
inductive Target where
  | field (name : String)
  | property (name : String)
deriving DecidableEq

/-- The parts of the rest of a variable's name, without the empty ones. -/
def parts (rest : List Char) : List String :=
  ((Text.pieces partMark rest).filter fun p => !p.isEmpty).map String.ofList

namespace Target

/-- The part of a name in which the case of letters does not matter. -/
def stem : Target → String
  | .field f => f
  | .property _ => propertiesField

/-- The parts after it, as they are written. -/
def rest : Target → List String
  | .field _ => []
  | .property p => [p]

/-- Whether a variable names a target: after the mark stand the stem, in letters of either case, and
the rest. -/
def isNamedBy (t : Target) (name : String) : Bool :=
  (Text.after? overlayMark.toList name.toList).any fun cs =>
    (parts cs).head?.map Text.lowerAscii = some t.stem ∧ (parts cs).tail = t.rest

theorem isNamedBy_iff {t : Target} {name : String} : t.isNamedBy name = true ↔
    ∃ cs word, name.toList = overlayMark.toList ++ cs ∧ parts cs = word :: t.rest ∧
      Text.lowerAscii word = t.stem := by
  simp only [isNamedBy, Option.any_eq_true, decide_eq_true_eq, Text.after?_eq_some_iff]
  constructor
  · rintro ⟨cs, hname, hstem, hrest⟩
    obtain ⟨word, hhead, hword⟩ := Option.map_eq_some_iff.1 hstem
    exact ⟨cs, word, hname, by rw [← hrest, List.cons_head?_tail hhead], hword⟩
  · rintro ⟨cs, word, hname, hparts, hword⟩
    exact ⟨cs, hname, by rw [hparts]; exact congrArg some hword, by rw [hparts]; rfl⟩

/-- A target that a variable may name: a property, or a field whose value is no object. -/
def Valid : Target → Prop
  | .field f => f ∈ fieldNames ∧ f ≠ propertiesField
  | .property _ => True

/-- A target that is no field with fields of its own. -/
def Plain (t : Target) : Prop := t ≠ .field propertiesField

theorem Valid.plain {t : Target} (h : t.Valid) : t.Plain := by
  rintro rfl
  exact h.2 rfl

/-- What a target is set to by a text: a field to the value that the text writes, and a property to
the text itself. -/
def value (raw : String) : Target → Json
  | .field _ => parseValue raw
  | .property _ => .string raw

/-- The overlay that sets a target. -/
def overlay (t : Target) (raw : String) : Overlay := ⟨t.stem :: t.rest, t.value raw⟩

/-- What fields have under a target. -/
def find? (fields : List (String × Json)) : Target → Option Json
  | .field f => lookup f fields
  | .property p => (lookup propertiesField fields).bind fun v => lookup p v.fieldsOrNone

end Target

variable {t u : Target} {name raw : String}

/-! ### Names as they are written -/

/-- No field's name is empty or has a mark between parts in it. -/
theorem name_of_mem_fieldNames :
    ∀ f ∈ fieldNames, f ≠ "" ∧ ¬ partMark <:+: f.toList := by decide +kernel

theorem lower_partMark : partMark.map Char.toLower = partMark := by decide

/-- A word that is a field but for the case of its letters is one part. -/
theorem parts_of_lower {word f : String} (hf : f ∈ fieldNames) (hword : Text.lowerAscii word = f) :
    parts word.toList = [word] := by
  obtain ⟨hne, hfree⟩ := name_of_mem_fieldNames f hf
  have hmapped : word.toList.map Char.toLower = f.toList := by rw [← hword, Text.toList_lowerAscii]
  have hinfix : ¬ partMark <:+: word.toList := fun h => hfree (by
    rw [← hmapped, ← lower_partMark]
    exact h.map Char.toLower)
  have hnonempty : word.toList ≠ [] := fun h => hne (by
    rw [← hword, String.toList_injective (h.trans String.toList_empty.symm)]
    rfl)
  rw [parts, Text.pieces_of_not_infix hinfix]
  simp [hnonempty]

/-- The mark and a field, in letters of either case, name that field. -/
theorem isNamedBy_field {word f : String} (hf : f ∈ fieldNames) (hword : Text.lowerAscii word = f) :
    (Target.field f).isNamedBy (overlayMark ++ word) = true :=
  Target.isNamedBy_iff.2 ⟨_, word, String.toList_append .., parts_of_lower hf hword, hword⟩

/-- The mark, the field of properties and the name of one, with a mark between them, name that
property. -/
theorem isNamedBy_property {word p : String} (hword : Text.lowerAscii word = propertiesField)
    (hne : p ≠ "") (hfree : ¬ partMark <:+: p.toList) :
    (Target.property p).isNamedBy
      (overlayMark ++ (word ++ String.ofList partMark ++ p)) = true := by
  refine Target.isNamedBy_iff.2 ⟨_, word, String.toList_append .., ?_, hword⟩
  have hmapped : word.toList.map Char.toLower = propertiesField.toList := by
    rw [← hword, Text.toList_lowerAscii]
  have hmark : '_' ∉ word.toList := by
    intro hmem
    have hlower : '_' ∈ word.toList.map Char.toLower := List.mem_map.2 ⟨'_', hmem, by decide⟩
    rw [hmapped] at hlower
    exact absurd hlower (by decide)
  have hword' : word.toList ≠ [] := by
    intro h
    rw [h] at hmapped
    exact absurd hmapped (by decide)
  have hp : p.toList ≠ [] := fun h =>
    hne (String.toList_injective (h.trans String.toList_empty.symm))
  have hpieces : Text.pieces partMark (word.toList ++ partMark ++ p.toList) =
      [word.toList, p.toList] := Text.pieces_append hmark hfree
  rw [parts, String.toList_append, String.toList_append, String.toList_ofList, hpieces]
  simp [hword', hp, Target.rest]

/-! ### The overlay of a variable -/

/-- The overlay of a variable sets the target that the variable names. -/
theorem overlay?_of_isNamedBy (hvalid : t.Valid) (h : t.isNamedBy name = true) :
    overlay? name raw = some (t.overlay raw) := by
  obtain ⟨cs, word, hname, hparts, hword⟩ := Target.isNamedBy_iff.1 h
  have hpath : pathOf cs = t.stem :: t.rest := by
    unfold parts at hparts
    rw [pathOf, hparts, ← hword]
  unfold overlay?
  rw [hname, Text.after?_append, Option.bind_some, hpath]
  cases t with
  | field f => exact congrArg (fun v => some (Overlay.mk [f] v)) (if_neg hvalid.2)
  | property p => rfl

/-- A variable without the mark is no overlay. -/
theorem overlay?_eq_none (h : Text.startsWith name overlayMark = false) :
    overlay? name raw = none := by
  unfold overlay?
  unfold Text.startsWith at h
  rw [Option.isSome_eq_false_iff, Option.isNone_iff_eq_none] at h
  rw [h]
  rfl

theorem isNamedBy_eq_false (h : Text.startsWith name overlayMark = false) :
    t.isNamedBy name = false := by
  unfold Target.isNamedBy
  unfold Text.startsWith at h
  rw [Option.isSome_eq_false_iff, Option.isNone_iff_eq_none] at h
  rw [h]
  rfl

/-- A variable names one target at most. -/
theorem eq_of_isNamedBy (h : t.isNamedBy name = true) (h' : u.isNamedBy name = true) : t = u := by
  obtain ⟨cs, word, hname, hparts, hword⟩ := Target.isNamedBy_iff.1 h
  obtain ⟨cs', word', hname', hparts', hword'⟩ := Target.isNamedBy_iff.1 h'
  obtain rfl : cs = cs' := List.append_cancel_left (hname.symm.trans hname')
  obtain ⟨rfl, hrest⟩ := List.cons.inj (hparts.symm.trans hparts')
  have hstem : t.stem = u.stem := hword.symm.trans hword'
  cases t <;> cases u <;> simp_all [Target.stem, Target.rest]

/-! ### What an environment says -/

/-- What the last variable says that names a target. -/
def lastSaid (environment : List (String × String)) (t : Target) : Option String :=
  (environment.reverse.find? fun v => t.isNamedBy v.1).map Prod.snd

theorem lastSaid_cons (v : String × String) (environment : List (String × String)) :
    lastSaid (v :: environment) t =
      (lastSaid environment t).or (if t.isNamedBy v.1 then some v.2 else none) := by
  unfold lastSaid
  rw [List.reverse_cons, List.find?_append]
  cases environment.reverse.find? fun v => t.isNamedBy v.1 with
  | some w => rfl
  | none =>
      cases hv : t.isNamedBy v.1 <;> simp [hv]

theorem overlays_cons (v : String × String) (environment : List (String × String)) :
    overlays (v :: environment) = (overlay? v.1 v.2).toList ++ overlays environment := by
  obtain ⟨name, raw⟩ := v
  cases ho : overlay? name raw <;> simp [overlays, ho]

/-- Variables without the mark say nothing. -/
theorem overlays_filter (environment : List (String × String)) :
    overlays (environment.filter fun v => Text.startsWith v.1 overlayMark) =
      overlays environment := by
  induction environment with
  | nil => rfl
  | cons v environment ih =>
      rw [overlays_cons, ← ih]
      cases hmark : Text.startsWith v.1 overlayMark with
      | false =>
          rw [List.filter_cons, hmark, overlay?_eq_none hmark]
          rfl
      | true =>
          rw [List.filter_cons, hmark]
          exact overlays_cons v _

/-- An overlay of a target sets that target and leaves every other one. -/
theorem find?_applyOverlay (hu : u.Plain) (raw : String) (fields : List (String × Json)) :
    ∃ fields', applyOverlay (.object fields) (u.overlay raw) = .object fields' ∧
      (Ordered fields → Ordered fields') ∧
      ∀ t : Target, t.Plain →
        t.find? fields' = if t = u then some (u.value raw) else t.find? fields := by
  cases u with
  | field f =>
      refine ⟨insertField f (Target.value raw (.field f)) fields, rfl, fun h => h.insertField,
        fun t ht => ?_⟩
      have hf : f ≠ propertiesField := fun e => hu (by rw [e])
      cases t with
      | field g =>
          by_cases hg : g = f
          · subst hg
            rw [if_pos rfl, Target.find?, Json.lookup_insertField_self]
          · rw [if_neg (by simpa using hg), Target.find?, Json.lookup_insertField_other hg]
            rfl
      | property q =>
          rw [if_neg (by simp), Target.find?, Json.lookup_insertField_other (Ne.symm hf)]
          rfl
  | property p =>
      -- what the properties are set in: nothing, where they are no object yet
      let inner := ((lookup propertiesField fields).getD (.object [])).fieldsOrNone
      have hinner (q : String) : lookup q inner = Target.find? fields (.property q) := by
        simp only [inner, Target.find?]
        cases lookup propertiesField fields <;> rfl
      refine ⟨insertField propertiesField
        (.object (insertField p (Target.value raw (.property p)) inner)) fields, rfl,
        fun h => h.insertField, fun t ht => ?_⟩
      cases t with
      | field g =>
          have hg : g ≠ propertiesField := fun e => ht (by rw [e])
          rw [if_neg (by simp), Target.find?, Json.lookup_insertField_other hg]
          rfl
      | property q =>
          have hfind : Target.find? (insertField propertiesField (.object
              (insertField p (Target.value raw (.property p)) inner)) fields) (.property q) =
              lookup q (insertField p (Target.value raw (.property p)) inner) := by
            rw [Target.find?, Json.lookup_insertField_self]
            rfl
          by_cases hq : q = p
          · subst hq
            rw [if_pos rfl, hfind, Json.lookup_insertField_self]
          · rw [if_neg (by simpa using hq), hfind, Json.lookup_insertField_other hq, hinner]

/-- Every variable with the mark names a target that it may name. -/
def Meant (environment : List (String × String)) : Prop :=
  ∀ v ∈ environment, Text.startsWith v.1 overlayMark = true →
    ∃ t : Target, t.Valid ∧ t.isNamedBy v.1 = true

/-- The overlays of an environment leave each target with what is said of it last. -/
theorem exists_overlaid {environment : List (String × String)} (h : Meant environment)
    (fields : List (String × Json)) :
    ∃ fields', (overlays environment).foldl applyOverlay (.object fields) = .object fields' ∧
      (Ordered fields → Ordered fields') ∧
      ∀ t : Target, t.Plain →
        t.find? fields' = ((lastSaid environment t).map t.value).or (t.find? fields) := by
  induction environment generalizing fields with
  | nil => exact ⟨fields, rfl, id, fun _ _ => rfl⟩
  | cons v environment ih =>
      obtain ⟨hv, hrest⟩ := List.forall_mem_cons.1 h
      cases hmark : Text.startsWith v.1 overlayMark with
      | false =>
          obtain ⟨fields', hrun, hordered, hfind⟩ := ih hrest fields
          refine ⟨fields', ?_, hordered, fun t ht => ?_⟩
          · rw [overlays_cons, overlay?_eq_none hmark]
            exact hrun
          · rw [hfind t ht, lastSaid_cons, isNamedBy_eq_false hmark]
            simp
      | true =>
          obtain ⟨u, hu, hnamed⟩ := hv hmark
          obtain ⟨fields₁, hstep, hordered₁, hfind₁⟩ :=
            find?_applyOverlay hu.plain v.2 fields
          obtain ⟨fields', hrun, hordered, hfind⟩ := ih hrest fields₁
          refine ⟨fields', ?_, hordered ∘ hordered₁, fun t ht => ?_⟩
          · rw [overlays_cons, overlay?_of_isNamedBy hu hnamed, Option.toList_some,
              List.singleton_append, List.foldl_cons, hstep]
            exact hrun
          · rw [hfind t ht, hfind₁ t ht, lastSaid_cons]
            have hsame : t.isNamedBy v.1 = true ↔ t = u :=
              ⟨fun hnamed' => eq_of_isNamedBy hnamed' hnamed, fun e => e ▸ hnamed⟩
            cases lastSaid environment t with
            | some w => rfl
            | none =>
                by_cases htu : t = u
                · subst htu
                  simp [hnamed]
                · simp [hsame, htu]

end Settings

end Bindery
