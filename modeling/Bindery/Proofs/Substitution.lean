import Bindery.Proofs.Reframing
import Bindery.Proofs.Segments
import Bindery.Session.Basic

/-!
# Bindery — Proofs — Substitution

Templates all of whose names are bound to texts.  What becomes of such a template is told by reading
it once from left to right (`fill`): up to the first `$[` everything stays as it is, then a name is
read up to the first `]`, and what stands for it is put out and not read again.  It is the same to
split the template into segments and to put each reference's value in its place
(`fill_eq_flatMap`), which is what an expansion does (`expand_of_run`).
-/

namespace Bindery

namespace Template

open Bindery.Text

/-! ### Reading a template once -/

variable (value : String → String)

/-- What stands for a reference in the end: the value of its name without the blanks around it, or
the reference itself if its name is blank or it is a placeholder. -/
def standIn (name : List Char) : List Char :=
  if name.all isBlank || isPlaceholder (String.ofList name) then opening ++ name ++ [']']
  else (value (Text.trim (String.ofList name))).toList

/-- The characters of a template with the values of names in it; within a reference, what was read
of its name comes along. -/
def fill : Option (List Char) → List Char → List Char
  | none, [] => []
  | none, '$' :: '[' :: cs => fill (some []) cs
  | none, c :: cs => c :: fill none cs
  | some name, [] => opening ++ name
  | some name, c :: cs =>
    if c = ']' then standIn value name ++ fill none cs else fill (some (name ++ [c])) cs

/-- A template with the values of names in it. -/
def substitute (template : String) : String :=
  String.ofList (fill value none template.toList)

variable {value} {name : List Char}

theorem fill_cons {c : Char} {cs : List Char} (h : ¬ opening <+: c :: cs) :
    fill value none (c :: cs) = c :: fill value none cs := by
  rw [fill]
  rintro rest rfl rfl
  exact h (List.prefix_append opening rest)

theorem fill_of_not_infix {cs : List Char} (h : ¬ opening <:+: cs) : fill value none cs = cs := by
  induction cs with
  | nil => rfl
  | cons c cs ih =>
      obtain ⟨hstart, hrest⟩ := not_or.1 (List.infix_cons_iff.not.1 h)
      rw [fill_cons hstart, ih hrest]

theorem fill_opening {before : List Char} (h : ¬ opening <:+: before) (cs : List Char) :
    fill value none (before ++ opening ++ cs) = before ++ fill value (some []) cs := by
  induction before with
  | nil => rfl
  | cons c before ih =>
      have hrest : ¬ opening <:+: before := fun hin => h (hin.trans (List.suffix_cons c _).isInfix)
      have hnot : ¬ opening <+: c :: (before ++ opening ++ cs) := fun hopens => by
        have hshort : c :: before ++ ['$'] <+: c :: (before ++ opening ++ cs) :=
          ⟨'[' :: cs, by simp [opening]⟩
        have hin := List.prefix_of_prefix_length_le hopens hshort (by simp [opening])
        exact not_opening_infix_concat h hin.isInfix
      rw [List.cons_append, List.cons_append, fill_cons hnot, ih hrest, List.cons_append]

theorem fill_name {more : List Char} (h : ']' ∉ more) (rest : List Char) :
    fill value (some name) (more ++ ']' :: rest) =
      standIn value (name ++ more) ++ fill value none rest := by
  induction more generalizing name with
  | nil => rw [List.nil_append, fill, if_pos rfl, List.append_nil]
  | cons c more ih =>
      obtain ⟨hc, hmore⟩ := not_or.1 fun hor => h (List.mem_cons.2 hor)
      rw [List.cons_append, fill, if_neg (Ne.symm hc), ih hmore, List.append_assoc,
        List.singleton_append]

theorem fill_unclosed {more : List Char} (h : ']' ∉ more) :
    fill value (some name) more = opening ++ name ++ more := by
  induction more generalizing name with
  | nil => rw [fill, List.append_nil]
  | cons c more ih =>
      obtain ⟨hc, hmore⟩ := not_or.1 fun hor => h (List.mem_cons.2 hor)
      rw [fill, if_neg (Ne.symm hc), ih hmore]
      simp

/-! ### Reading it segment by segment -/

/-- The characters of a segment with the value of its name. -/
def Segment.filled (value : String → String) : Segment → List Char
  | .text s => s.toList
  | .reference name => standIn value name.toList

theorem filled_placeholder {name : String} (h : isPlaceholder name = true) :
    Segment.filled value (.reference name) = (Segment.reference name).write.toList := by
  simp [Segment.filled, standIn, Segment.write, h, opening]

theorem filled_reference {name : String} (hproper : (Segment.reference name).Proper)
    (h : isPlaceholder name = false) :
    Segment.filled value (.reference name) = (value (Text.trim name)).toList := by
  have hblank := trim_eq_empty_iff.not.1 hproper.2
  rw [blank] at hblank
  rw [Segment.filled, standIn, String.ofList_toList, Bool.eq_false_iff.2 hblank, h]
  rfl

theorem fill_of_none {cs : List Char} (h : firstReference? cs = none) :
    fill value none cs = cs := by
  rcases firstReference?_eq_none_iff.1 h with h | ⟨before, after, rfl, hbefore, hafter⟩
  · exact fill_of_not_infix h
  · rw [fill_opening hbefore, fill_unclosed hafter, List.append_nil, List.append_assoc]

theorem fill_of_some {cs before name rest : List Char}
    (h : firstReference? cs = some (before, name, rest)) :
    fill value none cs = before ++ standIn value name ++ fill value none rest := by
  obtain ⟨rfl, hbefore, hname⟩ := firstReference?_eq_some_iff.1 h
  rw [List.append_assoc _ name, fill_opening hbefore, fill_name hname, List.nil_append,
    List.append_assoc]

/-- Reading a template once is to put the value of each reference in its place. -/
theorem fill_eq_flatMap (cs : List Char) :
    fill value none cs = (parseList cs).flatMap (Segment.filled value) := by
  fun_induction parseList cs with
  | case1 cs e hempty => rw [List.isEmpty_iff.1 hempty]; rfl
  | case2 cs e hempty => rw [fill_of_none e]; simp [Segment.filled]
  | case3 cs before name rest e _ hblank ih =>
      rw [fill_of_some e, ih]
      simp [Segment.filled, standIn, hblank]
  | case4 cs before name rest e _ hblank hempty ih =>
      rw [fill_of_some e, ih, List.isEmpty_iff.1 hempty]
      simp [Segment.filled]
  | case5 cs before name rest e _ hblank hempty ih =>
      rw [fill_of_some e, ih]
      simp [Segment.filled]

end Template

/-! ### Expanding templates of texts -/

namespace ScopeStack

/-- The first entry that gives a name a value gives it a text: that of the name itself, or the one
that is bound below it. -/
def HasText (s : ScopeStack) (name v : String) : Prop :=
  ∃ kind : AttributeKind, kind.isLiteral = true ∧ s.firstOf? name = some (kind, v)

end ScopeStack

namespace Resolver

open Template (Segment)

variable {ι : Type} [PageReader ι] {r : Resolver ι} {s : State}

/-- A reference to a name that has a text is that text, if there is a level left. -/
theorem written_of_hasText {name v : String} (hne : Text.trim name ≠ Key.currentUrl)
    (h : s.store.HasText (Text.trim name) v) (room : Nat) :
    r.written (r.valueAt (room + 1)) name s = (.ok v, s) := by
  obtain ⟨kind, hkind, hfirst⟩ := h
  rw [written, reference_of_ne hne]
  exact valueAt_of_literal (ScopeStack.scan_of_isLiteral hkind hfirst) room

/-- Where every name is looked up without a trace, an expansion puts the values in. -/
theorem expand_of_run {lookup : String → Lookup String} {value : String → String}
    {segments : List Segment} (hproper : ∀ segment ∈ segments, segment.Proper)
    (h : ∀ name, .reference name ∈ segments → Template.isPlaceholder name = false →
      lookup name s = (.ok (value (Text.trim name)), s)) :
    expand lookup segments s =
      (.ok (String.ofList (segments.flatMap (Segment.filled value))), s) := by
  induction segments with
  | nil => rfl
  | cons segment rest ih =>
      obtain ⟨hsegment, hproper⟩ := List.forall_mem_cons.1 hproper
      have hrest := ih hproper fun name hname => h name (List.mem_cons_of_mem _ hname)
      rw [List.flatMap_cons, String.ofList_append]
      cases segment with
      | text t =>
          rw [expand, Act.bind_run_ok hrest, Segment.filled, String.ofList_toList]
          rfl
      | reference name =>
          cases hplaceholder : Template.isPlaceholder name with
          | true =>
              rw [expand, if_pos hplaceholder, Act.bind_run_ok hrest,
                Template.filled_placeholder hplaceholder, String.ofList_toList]
              rfl
          | false =>
              have hname := h name List.mem_cons_self hplaceholder
              rw [expand, if_neg (by simp [hplaceholder]), Act.bind_run_ok hname,
                Act.bind_run_ok hrest, Template.filled_reference hsegment hplaceholder,
                String.ofList_toList]
              rfl

/-- **A template of texts is filled once.**  If each name that is looked up for a template, the
blanks around it aside, is not the address of the page and has a text for its first entry, then
expanding the template with room for one level gives it with these texts in it, and nothing else
happens: nothing is bound, the browser is not called and nobody is asked.  The texts stand in it as
they are, whether they look like references or complete one; what is no reference, has a blank name
or is a placeholder stays. -/
theorem interpolate_substitutes (r : Resolver ι) (s : State) (value : String → String)
    (template : String) (hroom : 1 ≤ r.maxDepth)
    (h : ∀ name, .reference name ∈ Template.parse template →
      Template.isPlaceholder name = false →
      Text.trim name ≠ Key.currentUrl ∧
        s.store.HasText (Text.trim name) (value (Text.trim name))) :
    r.interpolate template s = (.ok (Template.substitute value template), s) := by
  obtain ⟨room, hdepth⟩ := Nat.exists_eq_add_of_le' hroom
  have hlookup : ∀ name, .reference name ∈ Template.parse template →
      Template.isPlaceholder name = false →
      r.written (r.valueAt r.maxDepth) name s = (.ok (value (Text.trim name)), s) := by
    intro name hname hplaceholder
    obtain ⟨hne, htext⟩ := h name hname hplaceholder
    rw [hdepth]
    exact written_of_hasText hne htext room
  rw [interpolate, expand_of_run (Template.canonical_parse template).proper hlookup,
    Template.substitute, Template.fill_eq_flatMap]
  rfl

/-- A name whose text completes a reference, and one that is bound to a text itself. -/
def letterState : State :=
  Session.begin ⟨[⟨.page, Session.pageName, [("name", ""), ("name/text", "$[city")]⟩],
    [("city", "Oslo")]⟩ (World.fresh .bare [])

/-- Means with room for one level. -/
def letterResolver : Resolver Interactor :=
  ⟨⟨Settings.standard.interaction, .none⟩, Evaluators.standard, fun _ => none, false, 1⟩

/-- The texts of the two names. -/
def letterTexts (name : String) : String := if name = "name" then "$[city" else "Oslo"

/-- What the letter writes looks like a reference to the city, and is none. -/
theorem letter_filled :
    1 ≤ letterResolver.maxDepth ∧
      letterResolver.interpolate "Dear $[ name ]], $[dryValue:x] $[ ] $[city]$[b" letterState =
        (.ok "Dear $[city], $[dryValue:x] $[ ] Oslo$[b", letterState) := by
  have hparse : Template.parse "Dear $[ name ]], $[dryValue:x] $[ ] $[city]$[b" =
      [.text "Dear ", .reference " name ", .text "], ", .reference "dryValue:x",
        .text " $[ ]", .text " ", .reference "city", .text "$[b"] := by decide +kernel
  have hfilled : Template.substitute letterTexts "Dear $[ name ]], $[dryValue:x] $[ ] $[city]$[b" =
      "Dear $[city], $[dryValue:x] $[ ] Oslo$[b" := by decide +kernel
  have htrim : Text.trim " name " = "name" := by decide +kernel
  have htrim' : Text.trim "city" = "city" := by decide +kernel
  have hmark : Template.isPlaceholder "dryValue:x" = true := by decide +kernel
  refine ⟨le_refl 1, ?_⟩
  rw [← hfilled]
  refine interpolate_substitutes letterResolver letterState letterTexts _ (le_refl 1) ?_
  rw [hparse]
  intro name hname hplaceholder
  simp only [List.mem_cons, List.not_mem_nil, Segment.reference.injEq, reduceCtorEq, false_or,
    or_false] at hname
  rcases hname with rfl | rfl | rfl
  · rw [htrim]
    exact ⟨by decide, .text, rfl, rfl⟩
  · rw [hmark] at hplaceholder
    cases hplaceholder
  · rw [htrim']
    exact ⟨by decide, .literal, rfl, rfl⟩

end Resolver

end Bindery
