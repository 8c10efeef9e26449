import Bindery.Template
import Mathlib.Data.List.Infix

/-!
# Bindery — Proofs — Segments

A template as its segments.  The first reference is the first `$[` with the first `]` after it
(`firstReference?_eq_some_iff`), and there is none where nothing is opened or where what is opened
first is never closed (`firstReference?_eq_none_iff`).  Writing the segments of a template one after
the other gives the template back (`toList_write_parseList`).

The segments of a template are canonical, and canonical segments are those of what they write
(`Canonical.parse_write`); so there is one way only to write a template with canonical segments.
Any of them that are next to each other are canonical as well: leaving out what comes before takes
none of them apart, and leaving out what comes after turns a text before a reference into the last
one.
-/

namespace Bindery.Template

open Bindery.Text

/-! ### The first reference -/

/-- What opens a reference does not begin at the end of a text either. -/
theorem not_opening_infix_concat {before : List Char} (h : ¬ opening <:+: before) :
    ¬ opening <:+: before ++ ['$'] := by
  rw [List.infix_concat_iff, not_or]
  refine ⟨fun ⟨x, hx⟩ => ?_, h⟩
  have hlast := congrArg List.getLast? hx
  simp [opening] at hlast

theorem firstReference?_append {before name : List Char} (hbefore : ¬ opening <:+: before)
    (hname : ']' ∉ name) (rest : List Char) :
    firstReference? (before ++ opening ++ name ++ ']' :: rest) = some (before, name, rest) := by
  have hcut := cutAt?_append (by decide) (not_opening_infix_concat hbefore) (name ++ ']' :: rest)
  rw [firstReference?, List.append_assoc _ name, hcut, Option.bind_some]
  simp only [splitOn?_append hname, Option.map_some]

theorem firstReference?_eq_some_iff {cs before name rest : List Char} :
    firstReference? cs = some (before, name, rest) ↔
      cs = before ++ opening ++ name ++ ']' :: rest ∧ ¬ opening <:+: before ∧ ']' ∉ name := by
  constructor
  · intro h
    refine ⟨eq_append_of_firstReference? h, ?_⟩
    obtain ⟨⟨a, b⟩, hab, h⟩ := Option.bind_eq_some_iff.1 h
    obtain ⟨⟨c, d⟩, hcd, h⟩ := Option.map_eq_some_iff.1 h
    cases h
    exact ⟨not_infix_of_cutAt? (by decide) hab, not_mem_of_splitOn? hcd⟩
  · rintro ⟨rfl, hbefore, hname⟩
    exact firstReference?_append hbefore hname rest

/-- Nothing is opened, or what is opened first is not closed. -/
def Unreferenced (cs : List Char) : Prop :=
  ¬ opening <:+: cs ∨
    ∃ before after, cs = before ++ opening ++ after ∧ ¬ opening <:+: before ∧ ']' ∉ after

theorem firstReference?_eq_none_iff {cs : List Char} :
    firstReference? cs = none ↔ Unreferenced cs := by
  constructor
  · intro h
    rw [firstReference?] at h
    cases hcut : cutAt? opening cs with
    | none => exact .inl (cutAt?_eq_none_iff.1 hcut)
    | some cut =>
        obtain ⟨before, after⟩ := cut
        rw [hcut, Option.bind_some, Option.map_eq_none_iff] at h
        exact .inr ⟨before, after, eq_append_of_cutAt? hcut, not_infix_of_cutAt? (by decide) hcut,
          splitOn?_eq_none_iff.1 h⟩
  · rintro (h | ⟨before, after, rfl, hbefore, hafter⟩)
    · rw [firstReference?, cutAt?_eq_none_iff.2 h, Option.bind_none]
    · have hcut := cutAt?_append (by decide) (not_opening_infix_concat hbefore) after
      rw [firstReference?, hcut]
      simp only [Option.bind_some, splitOn?_eq_none_iff.2 hafter, Option.map_none]

/-! ### Segments and what they write -/

theorem parseList_of_none {cs : List Char} (h : firstReference? cs = none) :
    parseList cs = if cs.isEmpty then [] else [.text (String.ofList cs)] := by
  rw [parseList]
  split
  next => rfl
  next e =>
    rw [h] at e
    cases e

theorem parseList_of_some {cs before name rest : List Char}
    (h : firstReference? cs = some (before, name, rest)) :
    parseList cs =
      if name.all isBlank then
        .text (String.ofList (before ++ opening ++ name ++ [']'])) :: parseList rest
      else if before.isEmpty then .reference (String.ofList name) :: parseList rest
      else .text (String.ofList before) :: .reference (String.ofList name) :: parseList rest := by
  rw [parseList]
  split
  next e =>
    rw [h] at e
    cases e
  next e =>
    rw [h] at e
    cases e
    rfl

theorem toList_write_text (cs : List Char) (rest : List Segment) :
    (write (.text (String.ofList cs) :: rest)).toList = cs ++ (write rest).toList := by
  simp [write, Segment.write]

theorem toList_write_reference (cs : List Char) (rest : List Segment) :
    (write (.reference (String.ofList cs) :: rest)).toList =
      opening ++ cs ++ ']' :: (write rest).toList := by
  simp [write, Segment.write, opening]

/-- The segments of a template write the template. -/
theorem toList_write_parseList (cs : List Char) : (write (parseList cs)).toList = cs := by
  fun_induction parseList cs with
  | case1 cs e hempty => rw [List.isEmpty_iff.1 hempty]; rfl
  | case2 cs e hempty => rw [toList_write_text]; exact List.append_nil cs
  | case3 cs before name rest e _ hblank ih =>
      rw [toList_write_text, ih, eq_append_of_firstReference? e, List.append_assoc]
      rfl
  | case4 cs before name rest e _ hblank hempty ih =>
      rw [toList_write_reference, ih, eq_append_of_firstReference? e, List.isEmpty_iff.1 hempty]
      rfl
  | case5 cs before name rest e _ hblank hempty ih =>
      rw [toList_write_text, toList_write_reference, ih, eq_append_of_firstReference? e,
        ← List.append_assoc, ← List.append_assoc]

/-! ### Segments that stand for what they write -/

/-- Segments that stand for what they write: each text is not empty, and is one up to a reference
with a blank name, one before another reference, or the last one, in which there is none. -/
inductive Canonical : List Segment → Prop where
  | nil : Canonical []
  | tail {cs : List Char} : cs ≠ [] → Unreferenced cs → Canonical [.text (String.ofList cs)]
  | blank {before name : List Char} {rest : List Segment} : ¬ opening <:+: before → ']' ∉ name →
      name.all isBlank = true → Canonical rest →
      Canonical (.text (String.ofList (before ++ opening ++ name ++ [']'])) :: rest)
  | reference {name : List Char} {rest : List Segment} : ']' ∉ name → name.all isBlank = false →
      Canonical rest → Canonical (.reference (String.ofList name) :: rest)
  | before {before name : List Char} {rest : List Segment} : before ≠ [] → ¬ opening <:+: before →
      ']' ∉ name → name.all isBlank = false → Canonical rest →
      Canonical (.text (String.ofList before) :: .reference (String.ofList name) :: rest)

/-- A segment as a template has it: a text that is not empty, or a reference whose name is not blank
and does not hold what closes it. -/
def Segment.Proper : Segment → Prop
  | .text s => s ≠ ""
  | .reference name => ']' ∉ name.toList ∧ Text.trim name ≠ ""

theorem ofList_ne_empty {cs : List Char} (h : cs ≠ []) : String.ofList cs ≠ "" := fun heq =>
  h (by rw [← String.toList_ofList (l := cs), heq]; rfl)

theorem proper_reference {name : List Char} (hname : ']' ∉ name)
    (hblank : name.all isBlank = false) : (Segment.reference (String.ofList name)).Proper := by
  refine ⟨by rwa [String.toList_ofList], fun htrim => ?_⟩
  rw [trim_eq_empty_iff, blank, String.toList_ofList, hblank] at htrim
  cases htrim

namespace Canonical

theorem of_parseList (cs : List Char) : Canonical (parseList cs) := by
  fun_induction parseList cs with
  | case1 cs e hempty => exact .nil
  | case2 cs e hempty =>
      exact .tail (fun heq => hempty (List.isEmpty_iff.2 heq)) (firstReference?_eq_none_iff.1 e)
  | case3 cs before name rest e _ hblank ih =>
      obtain ⟨-, hbefore, hname⟩ := firstReference?_eq_some_iff.1 e
      exact .blank hbefore hname hblank ih
  | case4 cs before name rest e _ hblank hempty ih =>
      obtain ⟨-, -, hname⟩ := firstReference?_eq_some_iff.1 e
      exact .reference hname (Bool.eq_false_iff.2 hblank) ih
  | case5 cs before name rest e _ hblank hempty ih =>
      obtain ⟨-, hbefore, hname⟩ := firstReference?_eq_some_iff.1 e
      exact .before (fun heq => hempty (List.isEmpty_iff.2 heq)) hbefore hname
        (Bool.eq_false_iff.2 hblank) ih

variable {segments part : List Segment}

/-- Canonical segments are the segments of what they write. -/
theorem parse_write (h : Canonical segments) : parse (write segments) = segments := by
  unfold parse
  induction h with
  | nil => exact parseList_of_none rfl
  | @tail cs hne hnone =>
      have hwrite : (write [.text (String.ofList cs)]).toList = cs :=
        (toList_write_text cs []).trans (List.append_nil cs)
      rw [hwrite, parseList_of_none (firstReference?_eq_none_iff.2 hnone),
        if_neg (by simpa using hne)]
  | @blank before name rest hbefore hname hblank _ ih =>
      rw [toList_write_text, List.append_assoc _ [']'], List.singleton_append,
        parseList_of_some (firstReference?_append hbefore hname _), if_pos hblank, ih]
  | @reference name rest hname hblank _ ih =>
      have hfirst : firstReference? (opening ++ name ++ ']' :: (write rest).toList) =
          some ([], name, (write rest).toList) :=
        @firstReference?_append [] name (by decide) hname _
      rw [toList_write_reference, parseList_of_some hfirst, if_neg (by simp [hblank]),
        if_pos List.isEmpty_nil, ih]
  | @before before name rest hne hbefore hname hblank _ ih =>
      rw [toList_write_text, toList_write_reference, ← List.append_assoc, ← List.append_assoc,
        parseList_of_some (firstReference?_append hbefore hname _), if_neg (by simp [hblank]),
        if_neg (by simpa using hne), ih]

theorem of_cons {segment : Segment} (h : Canonical (segment :: segments)) : Canonical segments := by
  cases h with
  | tail => exact .nil
  | blank _ _ _ hrest => exact hrest
  | reference _ _ hrest => exact hrest
  | before _ _ hname hblank hrest => exact .reference hname hblank hrest

theorem of_isSuffix (h : Canonical segments) (hpart : part <:+ segments) : Canonical part := by
  obtain ⟨first, rfl⟩ := hpart
  induction first with
  | nil => exact h
  | cons segment first ih => exact ih h.of_cons

theorem of_isPrefix (h : Canonical segments) (hpart : part <+: segments) : Canonical part := by
  induction h generalizing part with
  | nil =>
      rw [List.prefix_nil.1 hpart]
      exact .nil
  | tail hne hnone =>
      cases part with
      | nil => exact .nil
      | cons segment part =>
          obtain ⟨rfl, hrest⟩ := List.cons_prefix_cons.1 hpart
          rw [List.prefix_nil.1 hrest]
          exact .tail hne hnone
  | blank hbefore hname hblank _ ih =>
      cases part with
      | nil => exact .nil
      | cons segment part =>
          obtain ⟨rfl, hrest⟩ := List.cons_prefix_cons.1 hpart
          exact .blank hbefore hname hblank (ih hrest)
  | reference hname hblank _ ih =>
      cases part with
      | nil => exact .nil
      | cons segment part =>
          obtain ⟨rfl, hrest⟩ := List.cons_prefix_cons.1 hpart
          exact .reference hname hblank (ih hrest)
  | before hne hbefore hname hblank _ ih =>
      cases part with
      | nil => exact .nil
      | cons segment part =>
          obtain ⟨rfl, hrest⟩ := List.cons_prefix_cons.1 hpart
          cases part with
          | nil =>
              -- without its reference the text is the last one
              exact .tail hne (.inl hbefore)
          | cons segment part =>
              obtain ⟨rfl, hlater⟩ := List.cons_prefix_cons.1 hrest
              exact .before hne hbefore hname hblank (ih hlater)

theorem of_isInfix (h : Canonical segments) (hpart : part <:+: segments) : Canonical part := by
  obtain ⟨later, hstart, hend⟩ := List.infix_iff_prefix_suffix.1 hpart
  exact (h.of_isSuffix hend).of_isPrefix hstart

/-- In canonical segments no text is empty, and no name is blank or holds what closes it. -/
theorem proper (h : Canonical segments) : ∀ segment ∈ segments, segment.Proper := by
  induction h with
  | nil => exact List.forall_mem_nil _
  | tail hne _ => exact List.forall_mem_singleton.2 (ofList_ne_empty hne)
  | blank _ _ _ _ ih => exact List.forall_mem_cons.2 ⟨ofList_ne_empty (by simp), ih⟩
  | reference hname hblank _ ih =>
      exact List.forall_mem_cons.2 ⟨proper_reference hname hblank, ih⟩
  | before hne _ hname hblank _ ih =>
      exact List.forall_mem_cons.2 ⟨ofList_ne_empty hne,
        List.forall_mem_cons.2 ⟨proper_reference hname hblank, ih⟩⟩

end Canonical

theorem canonical_parse (template : String) : Canonical (parse template) :=
  .of_parseList template.toList

theorem write_parse (template : String) : write (parse template) = template :=
  String.toList_injective (toList_write_parseList _)

theorem write_texts (texts : List String) : write (texts.map .text) = String.join texts := by
  rw [write, List.map_map]
  exact congrArg String.join (List.map_id texts)

/-- **Splitting a template loses nothing and misses no reference.**  The segments of a template,
written one after the other, are the template, and they are the only canonical segments that write
it: what is opened and closed in it is a reference, unless its name is blank.  No text among them is
empty, and no name is blank or holds a closing bracket.  Segments that are next to each other are
the segments of what they write; so there is no reference in a text among them, nor in texts that
are next to each other. -/
theorem parse_lossless (template : String) :
    write (parse template) = template ∧
      (∀ segments, parse template = segments ↔
        Canonical segments ∧ write segments = template) ∧
      (∀ s, .text s ∈ parse template → s ≠ "") ∧
      (∀ name, .reference name ∈ parse template → ']' ∉ name.toList ∧ Text.trim name ≠ "") ∧
      (∀ part, part <:+: parse template → parse (write part) = part) ∧
      ∀ texts : List String, texts.map .text <:+: parse template →
        ∀ name, .reference name ∉ parse (String.join texts) := by
  have hcanonical := canonical_parse template
  have hparts (part) (hpart : part <:+: parse template) : parse (write part) = part :=
    (hcanonical.of_isInfix hpart).parse_write
  refine ⟨write_parse template, fun segments => ⟨?_, ?_⟩, fun s => hcanonical.proper _,
    fun name => hcanonical.proper _, hparts, fun texts htexts name hmem => ?_⟩
  · rintro rfl
    exact ⟨hcanonical, write_parse template⟩
  · rintro ⟨hsegments, rfl⟩
    exact hsegments.parse_write
  · rw [← write_texts, hparts _ htexts] at hmem
    obtain ⟨s, -, hs⟩ := List.mem_map.1 hmem
    cases hs

/-- What has a blank name and what is never closed is text; a name may hold what opens one. -/
example : parse "$[ ]a$[b$[c]]$[ d ]$[" =
    [.text "$[ ]", .text "a", .reference "b$[c", .text "]", .reference " d ", .text "$["] := by
  decide +kernel

end Bindery.Template
