import Bindery.Evaluation.Evaluators
import Bindery.Proofs.Layers
import Bindery.Proofs.PathGrammar

/-!
# Bindery — Proofs — Matches

What paths lead to.  A value in a JSON value is at the end of a *way*: an item or a field, an item
or a field of that one, and so on (`at?`).  A step takes some places and not others (`Step.Takes`),
and the steps of a path lead to the ends of all ways on which each place is one that its step takes,
in the order of the places, with no way left out and none gone twice (`matches_found`).

Paths compose.  One that is put behind another is read as its steps after those of the other
(`parse_append`), and leads on from every value that the other leads to (`follow_append`).
-/

namespace Bindery.Json.Path

open Bindery.Text
open List (Forall₂)

/-! ### Places -/

/-- A place in a value: an item of an array, or a field of an object. -/
inductive Place where
  | item (n : Nat)
  | field (name : String)
deriving DecidableEq, Repr

/-- The value at a place. -/
def Place.get? : Place → Json → Option Json
  | .item n, .array items => items[n]?
  | .field name, .object fields => lookup name fields
  | _, _ => none

/-- Items stand in the order of their numbers, and fields in that of their names. -/
inductive Place.Before : Place → Place → Prop where
  | items {m n : Nat} (h : m < n) : Before (.item m) (.item n)
  | fields {name other : String} (h : name < other) : Before (.field name) (.field other)

/-- The value at the end of a way. -/
def at? : List Place → Json → Option Json
  | [], v => some v
  | p :: way, v => (p.get? v).bind (at? way)

/-- Whether a step takes a place. -/
def Step.Takes : Step → Place → Prop
  | .field name, p => p = .field name
  | .index n, p => p = .item n
  | .every, _ => True

/-- The values that steps lead to, each with the way to it: it is at the end of a way that the steps
take, every such way is there, and they are in order, so none is there twice. -/
structure Matches (steps : List Step) (root : Json) (found : List (List Place × Json)) : Prop where
  mem : ∀ way v, (way, v) ∈ found ↔ Forall₂ Step.Takes steps way ∧ at? way root = some v
  ordered : (found.map Prod.fst).Pairwise (List.Lex Place.Before)

/-! ### One step -/

/-- The values that a step leads to, each with its place. -/
def Step.located : Step → Json → List (Place × Json)
  | .field name, .object fields => (lookup name fields).toList.map (.field name, ·)
  | .index n, .array items => items[n]?.toList.map (.item n, ·)
  | .every, .array items => items.zipIdx.map fun (v, n) => (.item n, v)
  | .every, .object fields => fields.map fun (name, v) => (.field name, v)
  | _, _ => []

theorem map_snd_located (s : Step) (v : Json) : (s.located v).map Prod.snd = s.follow v := by
  cases s <;> cases v <;> simp [Step.located, Step.follow, Function.comp_def]

/-- Where each key stands once, the value of a field is what is found. -/
theorem lookup_eq_some_iff {fields : List (String × Json)} (h : Ordered fields) {name : String}
    {v : Json} : lookup name fields = some v ↔ (name, v) ∈ fields := by
  refine ⟨mem_of_lookup, fun hmem => ?_⟩
  induction fields with
  | nil => cases hmem
  | cons f rest ih =>
      obtain ⟨k, w⟩ := f
      obtain ⟨hfirst, hrest⟩ := ordered_cons.1 h
      rw [lookup]
      rcases List.mem_cons.1 hmem with heq | hmem
      · cases heq
        exact if_pos rfl
      · have hlt := hfirst name (List.mem_map.2 ⟨_, hmem, rfl⟩)
        rw [if_neg (ne_of_lt hlt)]
        exact ih hrest hmem

theorem ordered_of_isCanonical {fields : List (String × Json)}
    (h : (Json.object fields).IsCanonical) : Ordered fields := by
  rw [IsCanonical] at h
  exact h.1

theorem mem_located {v : Json} (h : v.IsCanonical) (s : Step) (p : Place) (w : Json) :
    (p, w) ∈ s.located v ↔ s.Takes p ∧ p.get? v = some w := by
  cases v with
  | array items =>
      cases s with
      | field name => cases p <;> simp [Step.located, Step.Takes, Place.get?]
      | index n => cases p <;> simp [Step.located, Step.Takes, Place.get?]; grind
      | every =>
          cases p with
          | item n => simp [Step.located, Step.Takes, Place.get?, List.mem_zipIdx_iff_getElem?]
          | field name => simp [Step.located, Step.Takes, Place.get?]
  | object fields =>
      have hordered := ordered_of_isCanonical h
      cases s with
      | field name => cases p <;> simp [Step.located, Step.Takes, Place.get?]; grind
      | index n => cases p <;> simp [Step.located, Step.Takes, Place.get?]
      | every =>
          cases p with
          | item n => simp [Step.located, Step.Takes, Place.get?]
          | field name =>
              simp [Step.located, Step.Takes, Place.get?, lookup_eq_some_iff hordered]
  | _ => cases s <;> cases p <;> simp [Step.located, Place.get?]

theorem pairwise_located {v : Json} (h : v.IsCanonical) (s : Step) :
    (s.located v).Pairwise fun a b => a.1.Before b.1 := by
  cases v with
  | array items =>
      cases s with
      | field name => exact .nil
      | index n =>
          rw [Step.located]
          cases items[n]? with
          | none => exact .nil
          | some w => exact List.pairwise_singleton _ _
      | every =>
          have hnumbers : (items.zipIdx.map Prod.snd).Pairwise (· < ·) := by
            rw [List.zipIdx_map_snd]
            exact List.pairwise_lt_range'
          rw [List.pairwise_map] at hnumbers
          exact List.pairwise_map.2 (hnumbers.imp .items)
  | object fields =>
      have hordered := ordered_of_isCanonical h
      cases s with
      | field name =>
          rw [Step.located]
          cases lookup name fields with
          | none => exact .nil
          | some w => exact List.pairwise_singleton _ _
      | index n => exact .nil
      | every => exact List.pairwise_map.2 ((List.pairwise_map.1 hordered).imp .fields)
  | _ => cases s <;> exact .nil

theorem isCanonical_of_mem {items : List Json} (h : AreCanonical items) {v : Json}
    (hv : v ∈ items) : v.IsCanonical := by
  induction items with
  | nil => cases hv
  | cons first rest ih =>
      rw [AreCanonical] at h
      rcases List.mem_cons.1 hv with rfl | hv
      · exact h.1
      · exact ih h.2 hv

/-- What is at a place of a canonical value is canonical. -/
theorem isCanonical_of_get? {v w : Json} {p : Place} (h : v.IsCanonical) (hp : p.get? v = some w) :
    w.IsCanonical := by
  cases v with
  | array items =>
      cases p with
      | item n =>
          rw [IsCanonical] at h
          exact isCanonical_of_mem h (List.mem_of_getElem? hp)
      | field name => cases hp
  | object fields =>
      cases p with
      | item n => cases hp
      | field name =>
          rw [IsCanonical] at h
          exact h.2.lookup hp
  | _ => cases p <;> cases hp

/-! ### All steps -/

/-- The values that steps lead to, each with the way to it. -/
def found : List Step → Json → List (List Place × Json)
  | [], v => [([], v)]
  | s :: rest, v =>
    (s.located v).flatMap fun (p, w) => (found rest w).map fun (way, u) => (p :: way, u)

theorem follow_nil (values : List Json) : follow [] values = values := rfl

theorem follow_cons (s : Step) (rest : List Step) (values : List Json) :
    follow (s :: rest) values = follow rest (values.flatMap s.follow) := rfl

/-- Steps lead on from each value by itself. -/
theorem follow_eq_flatMap (steps : List Step) (values : List Json) :
    follow steps values = values.flatMap fun v => follow steps [v] := by
  induction steps generalizing values with
  | nil => simp [follow_nil]
  | cons s rest ih =>
      rw [follow_cons, ih, List.flatMap_assoc]
      refine congrArg (values.flatMap ·) (funext fun v => ?_)
      rw [follow_cons, List.flatMap_singleton, ← ih]

theorem follow_append (steps more : List Step) (values : List Json) :
    follow (steps ++ more) values = (follow steps values).flatMap fun v => follow more [v] := by
  rw [← follow_eq_flatMap]
  exact List.foldl_append

theorem map_snd_found (steps : List Step) (v : Json) :
    (found steps v).map Prod.snd = follow steps [v] := by
  induction steps generalizing v with
  | nil => rfl
  | cons s rest ih =>
      rw [found, follow_cons, List.flatMap_singleton, ← map_snd_located, follow_eq_flatMap,
        List.map_flatMap, List.flatMap_map]
      refine congrArg ((s.located v).flatMap ·) (funext fun a => ?_)
      rw [List.map_map, ← ih]
      rfl

theorem mem_found_cons {s : Step} {rest : List Step} {v u : Json} {way : List Place} :
    (way, u) ∈ found (s :: rest) v ↔
      ∃ p w onward, (p, w) ∈ s.located v ∧ (onward, u) ∈ found rest w ∧ way = p :: onward := by
  simp only [found, List.mem_flatMap, List.mem_map, Prod.exists, Prod.mk.injEq]
  constructor
  · rintro ⟨p, w, hp, onward, _, hmem, rfl, rfl⟩
    exact ⟨p, w, onward, hp, hmem, rfl⟩
  · rintro ⟨p, w, onward, hp, hmem, rfl⟩
    exact ⟨p, w, hp, onward, u, hmem, rfl, rfl⟩

/-- What is found is at the end of a way that the steps take, and all of it is. -/
theorem mem_found {v : Json} (h : v.IsCanonical) (steps : List Step) (way : List Place) (u : Json) :
    (way, u) ∈ found steps v ↔ Forall₂ Step.Takes steps way ∧ at? way v = some u := by
  induction steps generalizing v way with
  | nil =>
      rw [found, List.mem_singleton, Prod.mk.injEq, List.forall₂_nil_left_iff]
      constructor
      · rintro ⟨rfl, rfl⟩
        exact ⟨rfl, rfl⟩
      · rintro ⟨rfl, hu⟩
        exact ⟨rfl, (Option.some.inj hu).symm⟩
  | cons s rest ih =>
      rw [mem_found_cons, List.forall₂_cons_left_iff]
      -- the step takes the first place, and the other steps the way on from what is there
      constructor
      · rintro ⟨p, w, onward, hp, hmem, rfl⟩
        obtain ⟨htakes, hget⟩ := (mem_located h s p w).1 hp
        obtain ⟨honward, hat⟩ := (ih (isCanonical_of_get? h hget) onward).1 hmem
        refine ⟨⟨p, onward, htakes, honward, rfl⟩, ?_⟩
        rw [at?, hget]
        exact hat
      · rintro ⟨⟨p, onward, htakes, honward, rfl⟩, hat⟩
        obtain ⟨w, hget, hat⟩ := Option.bind_eq_some_iff.1 hat
        refine ⟨p, w, onward, (mem_located h s p w).2 ⟨htakes, hget⟩, ?_, rfl⟩
        exact (ih (isCanonical_of_get? h hget) onward).2 ⟨honward, hat⟩

theorem pairwise_found {v : Json} (h : v.IsCanonical) (steps : List Step) :
    (found steps v).Pairwise fun a b => List.Lex Place.Before a.1 b.1 := by
  induction steps generalizing v with
  | nil => exact List.pairwise_singleton _ _
  | cons s rest ih =>
      rw [found, List.pairwise_flatMap]
      constructor
      · rintro ⟨p, w⟩ hp
        have hget := ((mem_located h s p w).1 hp).2
        exact List.pairwise_map.2 ((ih (isCanonical_of_get? h hget)).imp .cons)
      · -- two ways that part at the first place are in the order of these places
        refine (pairwise_located h s).imp fun hbefore a ha b hb => ?_
        obtain ⟨_, -, rfl⟩ := List.mem_map.1 ha
        obtain ⟨_, -, rfl⟩ := List.mem_map.1 hb
        exact .rel hbefore

theorem matches_found {root : Json} (h : root.IsCanonical) (steps : List Step) :
    Matches steps root (found steps root) :=
  ⟨mem_found h steps, List.pairwise_map.2 (pairwise_found h steps)⟩

/-! ### Paths behind one another -/

/-- A text that is a path. -/
def IsPath (path : String) : Prop := ∃ steps, parse path = .ok steps

/-- What follows the root of a path is trimmed at its end alone. -/
theorem toList_trim_root {path : String} {rest : List Char} (h : path.toList = '$' :: rest) :
    (trim path).toList = '$' :: trimEnd rest := by
  rw [toList_trim, h]
  have hroot : trimEnd ['$'] = ['$'] := rfl
  exact trimEnd_append hroot rest

/-- A path behind another one, which does not end in a blank, is read as its steps after those of
the other. -/
theorem parse_append {p q : String} {steps more : List Step} (htrim : trim p = p)
    (hp : parse p = .ok steps) (hq : parse ("$" ++ q) = .ok more) :
    parse (p ++ q) = .ok (steps ++ more) := by
  obtain ⟨spellings, hspells, hspelled⟩ := parse_eq_ok_iff.1 hp
  obtain ⟨onward, honward, hmore⟩ := parse_eq_ok_iff.1 hq
  refine parse_eq_ok_iff.2 ⟨spellings ++ onward, List.rel_append hspells honward, ?_⟩
  have hpath : p.toList = '$' :: spellings.flatten := by
    rw [← htrim, hspelled, String.toList_ofList]
  have hend : trimEnd spellings.flatten = spellings.flatten := by
    have hboth := toList_trim_root hpath
    rw [htrim, hpath] at hboth
    exact (List.cons.inj hboth).2.symm
  have hrest : trimEnd q.toList = onward.flatten := by
    have hboth : (trim ("$" ++ q)).toList = '$' :: trimEnd q.toList :=
      toList_trim_root (by simp)
    rw [hmore, String.toList_ofList] at hboth
    exact (List.cons.inj hboth).2.symm
  have hall : (p ++ q).toList = '$' :: (spellings.flatten ++ q.toList) := by
    rw [String.toList_append, hpath, List.cons_append]
  refine String.toList_injective ?_
  rw [toList_trim_root hall, trimEnd_append hend, hrest, String.toList_ofList, List.flatten_append]

/-! ### What is extracted -/

theorem parse_root : parse "$" = .ok [] :=
  parse_eq_ok_iff.2 ⟨[], .nil, rfl⟩

theorem isCanonical_of_read? {source : String} {root : Json} (h : read? source = some root) :
    root.IsCanonical := by
  obtain ⟨v, -, rfl⟩ := Option.map_eq_some_iff.1 h
  exact isCanonical_canonical v

theorem select_of_parse {path : String} {steps : List Step} (h : parse path = .ok steps)
    (root : Json) : select root path = .ok (follow steps [root]) := by
  rw [select, h]
  rfl

theorem select_eq_error {path : String} (h : ¬ IsPath path) (root : Json) :
    ∃ f, parse path = .error f ∧ select root path = .error f := by
  cases hparse : parse path with
  | ok steps => exact absurd ⟨steps, hparse⟩ h
  | error f => exact ⟨f, rfl, by rw [select, hparse]; rfl⟩

section

variable {expression source : String} {root : Json}

theorem extract_of_nothing (hread : read? source = some root)
    (hselect : select root expression = .ok []) :
    extract expression source = .error (.nothing expression) := by
  rw [extract, hread]
  simp only [hselect]

theorem extract_of_single {v : Json} (hread : read? source = some root)
    (hselect : select root expression = .ok [v]) : extract expression source = .ok v.plainText := by
  rw [extract, hread]
  simp only [hselect]

theorem extract_of_many {values : List Json} (hread : read? source = some root)
    (hselect : select root expression = .ok values) (hmany : 2 ≤ values.length) :
    extract expression source = .ok (Json.array values).text := by
  obtain _ | ⟨v, _ | ⟨w, rest⟩⟩ := values
  · cases hmany
  · exact absurd hmany (by simp)
  · rw [extract, hread]
    simp only [hselect]

/-- No text is extracted exactly where the source is no JSON, where the expression is no path, and
where it leads to nothing. -/
theorem exists_extract_error_iff : (∃ f, extract expression source = .error f) ↔
    read? source = none ∨ ¬ IsPath expression ∨
      ∃ root, read? source = some root ∧ select root expression = .ok [] := by
  cases hread : read? source with
  | none =>
      refine ⟨fun _ => .inl rfl, fun _ => ⟨.notJson, ?_⟩⟩
      rw [extract, hread]
  | some root =>
      by_cases hpath : IsPath expression
      · obtain ⟨steps, hsteps⟩ := hpath
        obtain ⟨values, hselect⟩ : ∃ values, select root expression = .ok values :=
          ⟨_, select_of_parse hsteps root⟩
        constructor
        · rintro ⟨f, hf⟩
          refine .inr (.inr ⟨root, rfl, ?_⟩)
          obtain _ | ⟨v, _ | ⟨w, rest⟩⟩ := values
          · exact hselect
          · cases (extract_of_single hread hselect).symm.trans hf
          · cases (extract_of_many hread hselect (by simp)).symm.trans hf
        · rintro (h | h | ⟨_, ⟨⟩, hnothing⟩)
          · cases h
          · exact absurd ⟨steps, hsteps⟩ h
          · exact ⟨_, extract_of_nothing hread hnothing⟩
      · obtain ⟨f, -, hselect⟩ := select_eq_error hpath root
        refine ⟨fun _ => .inr (.inl hpath), fun _ => ⟨.invalid f, ?_⟩⟩
        rw [extract, hread]
        simp only [hselect]

end

/-- What an evaluator says to a path is what is extracted by it, and changes nothing. -/
theorem standard_jsonPath (expression source : String) (w : World) :
    Evaluators.standard (.jsonPath expression source) w =
      (Evaluators.jsonText expression source, w) := rfl

theorem jsonText_eq_ok_iff {expression source text : String} :
    Evaluators.jsonText expression source = .ok text ↔ extract expression source = .ok text := by
  rw [Evaluators.jsonText]
  cases extract expression source <;> simp

theorem jsonText_eq_error_iff {expression source : String} {f : EvaluationFault} :
    Evaluators.jsonText expression source = .error f ↔
      ∃ g, extract expression source = .error g ∧ f = .failed (.noPath g) := by
  rw [Evaluators.jsonText]
  cases extract expression source <;> simp [eq_comm]

/-- A path that begins where another one ends is a path, and what it leads to is, in order, what its
second part leads to from each value that its first part leads to; the root alone leads to the value
itself.  So what a path leads to are the ends of all ways on which each place is one that a step
takes, items in their order and fields in that of their names.  A JSON path evaluated fails exactly
where the source is no JSON, the expression is no path, or nothing is found; it gives the one value
found as a text, and several as the text of an array of them. -/
theorem selection_composes :
    (∀ p q, trim p = p → IsPath p → IsPath ("$" ++ q) → IsPath (p ++ q) ∧ ∀ root,
      ∃ values onward, select root p = .ok values ∧
        (∀ v, select v ("$" ++ q) = .ok (onward v)) ∧
        select root (p ++ q) = .ok (values.flatMap onward)) ∧
    (∀ root, select root "$" = .ok [root]) ∧
    (∀ root path, root.IsCanonical → IsPath path → ∃ steps found, parse path = .ok steps ∧
      select root path = .ok (found.map Prod.snd) ∧ Matches steps root found) ∧
    ∀ expression source w,
      (∃ answer, Evaluators.standard (.jsonPath expression source) w = (answer, w) ∧
        ((∃ f, answer = .error f) ↔ read? source = none ∨ ¬ IsPath expression ∨
          ∃ root, read? source = some root ∧ select root expression = .ok []) ∧
        ∀ root values, read? source = some root → select root expression = .ok values →
          root.IsCanonical ∧ (∀ v, values = [v] → answer = .ok v.plainText) ∧
            (2 ≤ values.length → answer = .ok (Json.array values).text)) := by
  refine ⟨fun p q htrim hp hq => ?_, fun root => select_of_parse parse_root root,
    fun root path hroot hpath => ?_,
    fun expression source w => ?_⟩
  · obtain ⟨steps, hsteps⟩ := hp
    obtain ⟨more, hmore⟩ := hq
    have hboth := parse_append htrim hsteps hmore
    refine ⟨⟨_, hboth⟩, fun root => ⟨follow steps [root], fun v => follow more [v],
      select_of_parse hsteps root, fun v => select_of_parse hmore v, ?_⟩⟩
    rw [select_of_parse hboth, follow_append]
  · obtain ⟨steps, hsteps⟩ := hpath
    refine ⟨steps, found steps root, hsteps, ?_, matches_found hroot steps⟩
    rw [select_of_parse hsteps, map_snd_found]
  · refine ⟨_, standard_jsonPath expression source w, ?_, fun root values hread hselect => ?_⟩
    · rw [← exists_extract_error_iff]
      simp only [jsonText_eq_error_iff]
      exact ⟨fun ⟨_, g, hg, _⟩ => ⟨g, hg⟩, fun ⟨g, hg⟩ => ⟨_, g, hg, rfl⟩⟩
    · refine ⟨isCanonical_of_read? hread, ?_, fun hmany => ?_⟩
      · rintro v rfl
        exact jsonText_eq_ok_iff.2 (extract_of_single hread hselect)
      · exact jsonText_eq_ok_iff.2 (extract_of_many hread hselect hmany)

/-- Two books and the hours of a store. -/
def shelf : String :=
  "\x7b\"store\": \x7b\"hours\": \"9-5\", \"book\": [\x7b\"title\": \"Dune\", \"price\": 9\x7d, " ++
    "\x7b\"title\": \"Emma\", \"price\": 4\x7d]\x7d\x7d"

theorem isSome_read?_shelf : (read? shelf).isSome = true := by
  decide +kernel

/-- The value that the shelf writes.  It is irreducible, as only the kernel evaluates it in time. -/
@[irreducible]
def shelved : Json := (read? shelf).get isSome_read?_shelf

theorem parse_store : parse "$.store" = .ok [.field "store"] :=
  parse_eq_ok_iff.2 ⟨[".store".toList],
    .cons (.field (by decide) (by decide) (by decide)) .nil, rfl⟩

theorem parse_hours : parse "$.store.hours" = .ok [.field "store", .field "hours"] :=
  parse_eq_ok_iff.2 ⟨[".store".toList, ".hours".toList],
    .cons (.field (by decide) (by decide) (by decide)) <|
      .cons (.field (by decide) (by decide) (by decide)) .nil, rfl⟩

theorem parse_titles :
    parse ("$" ++ "['book'][*].title") = .ok [.field "book", .every, .field "title"] :=
  parse_eq_ok_iff.2 ⟨["['book']".toList, "[*]".toList, ".title".toList],
    .cons (@Spells.bracketed _ "'book'".toList (by decide) (.quoted "book".toList)) <|
      .cons (@Spells.bracketed _ ['*'] (by decide) .every) <|
      .cons (.field (by decide) (by decide) (by decide)) .nil, by decide +kernel⟩

theorem read?_shelf : read? shelf = some shelved := by
  unfold shelved
  exact (Option.some_get isSome_read?_shelf).symm

/-- The titles of the books in the store are those of the books that are in what the store leads to,
and are evaluated to an array of both, the hours to a text. -/
theorem shelf_titles :
    (∃ stores titles, select shelved "$.store" = .ok stores ∧
      (∀ v, select v "$['book'][*].title" = .ok (titles v)) ∧
      select shelved "$.store['book'][*].title" = .ok (stores.flatMap titles)) ∧
    (∃ steps found, parse "$.store['book'][*].title" = .ok steps ∧
      select shelved "$.store['book'][*].title" = .ok (found.map Prod.snd) ∧
      Matches steps shelved found) ∧
    ∀ w, Evaluators.standard (.jsonPath "$.store['book'][*].title" shelf) w =
        (.ok "[\"Dune\",\"Emma\"]", w) ∧
      Evaluators.standard (.jsonPath "$.store.hours" shelf) w = (.ok "9-5", w) := by
  have htail : "$" ++ "['book'][*].title" = "$['book'][*].title" := by decide +kernel
  have hwhole : "$.store" ++ "['book'][*].title" = "$.store['book'][*].title" := by
    decide +kernel
  have hparse := parse_append rfl parse_store parse_titles
  obtain ⟨hcompose, -, hmatches, heval⟩ := selection_composes
  obtain ⟨hpath, hvalues⟩ := hcompose "$.store" "['book'][*].title" rfl ⟨_, parse_store⟩
    ⟨_, parse_titles⟩
  rw [hwhole] at hparse hpath hvalues
  rw [htail] at hvalues
  refine ⟨hvalues shelved, hmatches _ _ (isCanonical_of_read? read?_shelf) hpath,
    fun w => ⟨?_, ?_⟩⟩
  · obtain ⟨answer, hanswer, -, hgives⟩ := heval "$.store['book'][*].title" shelf w
    have htext : (Json.array (follow ([.field "store"] ++ [.field "book", .every, .field "title"])
        [shelved])).text = "[\"Dune\",\"Emma\"]" := by
      decide +kernel
    have hmany := (hgives _ _ read?_shelf (select_of_parse hparse shelved)).2.2
      (by decide +kernel)
    rw [hanswer, hmany, htext]
  · obtain ⟨answer, hanswer, -, hgives⟩ := heval "$.store.hours" shelf w
    obtain ⟨v, hv⟩ : ∃ v, follow [.field "store", .field "hours"] [shelved] = [v] :=
      List.length_eq_one_iff.1 (by decide +kernel)
    have hshown : (follow [.field "store", .field "hours"] [shelved]).map plainText = ["9-5"] := by
      decide +kernel
    have hsingle := (hgives _ _ read?_shelf (select_of_parse parse_hours shelved)).2.1 v hv
    rw [hv] at hshown
    rw [hanswer, hsingle, (List.cons.inj hshown).1]

end Bindery.Json.Path
