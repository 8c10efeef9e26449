import Bindery.Json.Path
import Mathlib.Data.List.Forall2

/-!
# Bindery — Proofs — Path grammar

The grammar of paths.  `Inside` says what stands between the brackets of a step, `Spells` how a step
is spelled, and a path is `$` with a spelling of each of its steps after it.  Taking a step off the
front of a path takes one spelling off (`spells_of_take?`), and takes off just that spelling where
the next step or the end follows it (`take?_of_spells`).  So a path is read as the steps that it
spells (`steps?_eq_ok_iff`), and a spelling is read whichever form each step is given in.
-/

namespace Bindery.Json.Path

open Bindery.Text
open List (Forall₂)

/-! ### The grammar -/

/-- The decimal digits of a number that fits a word; there may be zeros in front. -/
structure IsIndex (n : Nat) (digits : List Char) : Prop where
  nonempty : digits ≠ []
  decimal : ∀ c ∈ digits, c.isDigit = true
  value : Nat.ofDigitChars 10 digits 0 = n
  fits : n ≤ maxWord

/-- What stands between the brackets of a step, without the blanks around it. -/
inductive Inside : Step → List Char → Prop where
  | every : Inside .every ['*']
  | quoted (name : List Char) :
      Inside (.field (String.ofList name)) ('\'' :: name ++ ['\''])
  | doublyQuoted (name : List Char) :
      Inside (.field (String.ofList name)) ('"' :: name ++ ['"'])
  | index {n : Nat} {digits : List Char} (h : IsIndex n digits) : Inside (.index n) digits
  | signedIndex {n : Nat} {digits : List Char} (h : IsIndex n digits) :
      Inside (.index n) ('+' :: digits)

/-- The spellings of a step. -/
inductive Spells : Step → List Char → Prop where
  | every : Spells .every ['.', '*']
  | field {c : Char} {name : List Char} (hstar : c ≠ '*') (hpoint : '.' ∉ c :: name)
      (hopen : '[' ∉ c :: name) :
      Spells (.field (String.ofList (c :: name))) ('.' :: c :: name)
  | bracketed {s : Step} {inner : List Char} (hclose : ']' ∉ inner)
      (h : Inside s (trimList inner)) : Spells s ('[' :: (inner ++ [']']))

/-! ### Brackets -/

theorem between?_eq_some_iff {mark : Char} {cs inner : List Char} :
    between? mark cs = some inner ↔ cs = mark :: inner ++ [mark] := by
  cases cs with
  | nil => simp [between?]
  | cons c cs =>
      rw [between?]
      constructor
      · intro h
        split at h
        next hends =>
          obtain ⟨rfl, hlast⟩ := hends
          cases h
          obtain ⟨init, rfl⟩ := List.getLast?_eq_some_iff.1 hlast
          simp
        next => cases h
      · intro h
        cases h
        simp

theorem unquoted?_eq_some_iff {cs name : List Char} :
    unquoted? cs = some name ↔ cs = '\'' :: name ++ ['\''] ∨ cs = '"' :: name ++ ['"'] := by
  rw [unquoted?]
  cases hsingle : between? '\'' cs with
  | some other =>
      rw [between?_eq_some_iff] at hsingle
      subst hsingle
      simp
  | none =>
      have hno : cs ≠ '\'' :: name ++ ['\''] := by
        intro h
        rw [← between?_eq_some_iff, hsingle] at h
        cases h
      simp only [Option.orElse_none, between?_eq_some_iff, hno, false_or]

theorem isIndex_iff {n : Nat} {digits : List Char} :
    IsIndex n digits ↔ n ≤ maxWord ∧ natOfDigits? 10 digits = some n := by
  rw [natOfDigits?_ten_eq_some_iff]
  constructor
  · intro h
    exact ⟨h.fits, h.nonempty, h.decimal, h.value⟩
  · rintro ⟨hfits, hnonempty, hdecimal, hvalue⟩
    exact ⟨hnonempty, hdecimal, hvalue, hfits⟩

/-- A number is written by its digits, with a plus sign before them or not. -/
theorem word?_eq_some_iff {n : Nat} {cs : List Char} :
    word? 10 cs = some n ↔ ∃ digits, (cs = digits ∨ cs = '+' :: digits) ∧ IsIndex n digits := by
  simp only [word?_ten_eq_some_iff, isIndex_iff]
  constructor
  · rintro ⟨hn, digits, hcs, hd⟩
    exact ⟨digits, hcs, hn, hd⟩
  · rintro ⟨digits, hcs, hn, hd⟩
    exact ⟨hn, digits, hcs, hd⟩

/-- What begins with neither a digit nor a plus sign writes no number. -/
theorem word?_cons_eq_none {c : Char} {cs : List Char} (hdigit : c.isDigit = false)
    (hplus : c ≠ '+') : word? 10 (c :: cs) = none := by
  cases h : word? 10 (c :: cs) with
  | none => rfl
  | some n =>
      obtain ⟨digits, rfl | hcs, hindex⟩ := word?_eq_some_iff.1 h
      · have hc := hindex.decimal c List.mem_cons_self
        rw [hdigit] at hc
        cases hc
      · cases hcs
        exact absurd rfl hplus

theorem ofBracketed?_of_inside {s : Step} {cs : List Char} (h : Inside s cs) :
    Step.ofBracketed? cs = some s := by
  have number {n : Nat} {cs : List Char} (h : word? 10 cs = some n) :
      Step.ofBracketed? cs = some (.index n) := by
    have hstar : cs ≠ ['*'] := by
      rintro rfl
      cases h
    have hquotes : unquoted? cs = none := by
      cases hname : unquoted? cs with
      | none => rfl
      | some name =>
          obtain rfl | rfl := unquoted?_eq_some_iff.1 hname
          · rw [List.cons_append, word?_cons_eq_none rfl (by decide)] at h
            cases h
          · rw [List.cons_append, word?_cons_eq_none rfl (by decide)] at h
            cases h
    rw [Step.ofBracketed?, if_neg hstar, hquotes]
    simp only [h, Option.map_some]
  cases h with
  | every => rfl
  | quoted name =>
      rw [Step.ofBracketed?, if_neg (by simp), unquoted?_eq_some_iff.2 (.inl rfl)]
  | doublyQuoted name =>
      rw [Step.ofBracketed?, if_neg (by simp), unquoted?_eq_some_iff.2 (.inr rfl)]
  | index h => exact number (word?_eq_some_iff.2 ⟨_, .inl rfl, h⟩)
  | signedIndex h => exact number (word?_eq_some_iff.2 ⟨_, .inr rfl, h⟩)

theorem inside_of_ofBracketed? {s : Step} {cs : List Char} (h : Step.ofBracketed? cs = some s) :
    Inside s cs := by
  rw [Step.ofBracketed?] at h
  split at h
  next hstar =>
    cases h
    rw [hstar]
    exact .every
  next =>
    cases hname : unquoted? cs with
    | some name =>
        rw [hname] at h
        cases h
        obtain rfl | rfl := unquoted?_eq_some_iff.1 hname
        · exact .quoted name
        · exact .doublyQuoted name
    | none =>
        rw [hname] at h
        obtain ⟨n, hn, rfl⟩ := Option.map_eq_some_iff.1 h
        obtain ⟨digits, rfl | rfl, hindex⟩ := word?_eq_some_iff.1 hn
        · exact .index hindex
        · exact .signedIndex hindex

/-! ### One step -/

variable {path : String}

/-- What follows a step: nothing, or another step. -/
def Follows (rest : List Char) : Prop :=
  ∀ c, rest.head? = some c → c = '.' ∨ c = '['

theorem endsName_eq_false {c : Char} {cs : List Char} (hpoint : '.' ∉ cs) (hopen : '[' ∉ cs)
    (hc : c ∈ cs) : (!endsName c) = true := by
  have hne : c ≠ '.' ∧ c ≠ '[' := by
    constructor <;> rintro rfl
    · exact hpoint hc
    · exact hopen hc
  simp [endsName, hne]

/-- A name ends where the next step begins. -/
theorem span_name {name rest : List Char} (hpoint : '.' ∉ name) (hopen : '[' ∉ name)
    (hrest : Follows rest) :
    (name ++ rest).takeWhile (fun c => !endsName c) = name ∧
      (name ++ rest).dropWhile (fun c => !endsName c) = rest := by
  have hname : ∀ c ∈ name, (!endsName c) = true := fun c hc => endsName_eq_false hpoint hopen hc
  have hstop : rest.takeWhile (fun c => !endsName c) = [] ∧
      rest.dropWhile (fun c => !endsName c) = rest := by
    cases rest with
    | nil => exact ⟨rfl, rfl⟩
    | cons d rest =>
        obtain rfl | rfl := hrest d rfl
        · exact ⟨rfl, rfl⟩
        · exact ⟨rfl, rfl⟩
  rw [List.takeWhile_append_of_pos hname, List.dropWhile_append_of_pos hname, hstop.1, hstop.2,
    List.append_nil]
  exact ⟨rfl, rfl⟩

theorem take?_field {c : Char} {cs : List Char} (hpoint : c ≠ '.') (hstar : c ≠ '*') :
    Step.take? path ('.' :: c :: cs) =
      if ((c :: cs).takeWhile fun c => !endsName c).isEmpty then .error (.emptyField path)
      else .ok (.field (String.ofList ((c :: cs).takeWhile fun c => !endsName c)),
        (c :: cs).dropWhile fun c => !endsName c) := by
  rw [Step.take?]
  · intro rest h
    cases h
    exact hpoint rfl
  · intro rest h
    cases h
    exact hstar rfl

/-- A spelling of a step is taken off the front of a path, if the next step or the end follows. -/
theorem take?_of_spells {s : Step} {spelling rest : List Char} (h : Spells s spelling)
    (hrest : Follows rest) : Step.take? path (spelling ++ rest) = .ok (s, rest) := by
  cases h with
  | every => rfl
  | @field c name hstar hpoint hopen =>
      have hc : c ≠ '.' := fun h => hpoint (h ▸ List.mem_cons_self)
      obtain ⟨htake, hdrop⟩ := span_name hpoint hopen hrest
      rw [List.cons_append] at htake hdrop
      rw [List.cons_append, List.cons_append, take?_field hc hstar, htake, hdrop]
      rfl
  | @bracketed _ inner hclose h =>
      have hsplit := splitOn?_append hclose rest
      rw [List.cons_append, List.append_assoc, List.singleton_append, Step.take?]
      simp only [hsplit, ofBracketed?_of_inside h]

/-- What is taken off the front of a path spells the step. -/
theorem spells_of_take? {s : Step} {cs rest : List Char} (h : Step.take? path cs = .ok (s, rest)) :
    ∃ spelling, Spells s spelling ∧ cs = spelling ++ rest := by
  unfold Step.take? at h
  split at h
  next => cases h
  next rest =>
    cases h
    exact ⟨_, .every, rfl⟩
  next cs hpoint hstar =>
    dsimp only at h
    split at h
    next => cases h
    next hname =>
      cases h
      have hparts := List.takeWhile_append_dropWhile (p := fun c => !endsName c) (l := cs)
      have hplain : ∀ c ∈ cs.takeWhile fun c => !endsName c, (!endsName c) = true :=
        List.all_eq_true.1 List.all_takeWhile
      cases htake : cs.takeWhile fun c => !endsName c with
      | nil => simp [htake] at hname
      | cons c name =>
          rw [htake] at hparts hplain
          refine ⟨'.' :: c :: name, .field ?_ ?_ ?_, ?_⟩
          · rintro rfl
            exact hstar _ hparts.symm
          · intro hmem
            exact absurd (hplain _ hmem) (by decide)
          · intro hmem
            exact absurd (hplain _ hmem) (by decide)
          · rw [List.cons_append, hparts]
  next cs =>
    split at h
    next => cases h
    next inner after hsplit =>
      dsimp only at h
      split at h
      next s hs =>
        cases h
        refine ⟨_, .bracketed (not_mem_of_splitOn? hsplit) (inside_of_ofBracketed? hs), ?_⟩
        rw [eq_append_of_splitOn? hsplit]
        simp
      next => cases h
  next => cases h

/-! ### All steps -/

theorem Spells.ne_nil {s : Step} {spelling : List Char} (h : Spells s spelling) :
    spelling ≠ [] := by
  cases h <;> simp

/-- Spellings follow a step. -/
theorem follows_flatten {steps : List Step} {spellings : List (List Char)}
    (h : Forall₂ Spells steps spellings) : Follows spellings.flatten := by
  intro c hc
  cases h with
  | nil => cases hc
  | cons hs _ =>
      cases hs with
      | every => cases hc; exact .inl rfl
      | field => cases hc; exact .inl rfl
      | bracketed => cases hc; exact .inr rfl

theorem steps?_cons {cs rest : List Char} {s : Step} (hne : cs ≠ [])
    (h : Step.take? path cs = .ok (s, rest)) :
    steps? path cs = (steps? path rest).map (s :: ·) := by
  have hempty : cs.isEmpty = false := by simpa using hne
  rw [steps?, hempty, if_neg Bool.false_ne_true]
  split
  next e =>
    rw [h] at e
    cases e
  next e =>
    rw [h] at e
    cases e
    rfl

/-- The steps that are left of a path are read as they are spelled. -/
theorem steps?_of_spells {steps : List Step} {spellings : List (List Char)}
    (h : Forall₂ Spells steps spellings) : steps? path spellings.flatten = .ok steps := by
  induction h with
  | nil =>
      rw [List.flatten_nil, steps?]
      rfl
  | @cons s spelling steps spellings hs hrest ih =>
      have hne : spelling ++ spellings.flatten ≠ [] := by
        simp [hs.ne_nil]
      rw [List.flatten_cons, steps?_cons hne (take?_of_spells hs (follows_flatten hrest)), ih]
      rfl

theorem spells_of_steps? {steps : List Step} {cs : List Char} (h : steps? path cs = .ok steps) :
    ∃ spellings, Forall₂ Spells steps spellings ∧ cs = spellings.flatten := by
  fun_induction steps? path cs generalizing steps with
  | case1 cs hempty =>
      cases h
      exact ⟨[], .nil, List.isEmpty_iff.1 hempty⟩
  | case2 => cases h
  | case3 cs hne s rest htake _ ih =>
      cases hsteps : steps? path rest with
      | error f =>
          rw [hsteps] at h
          cases h
      | ok more =>
          rw [hsteps] at h
          cases h
          obtain ⟨spelling, hs, rfl⟩ := spells_of_take? htake
          obtain ⟨spellings, hmore, rfl⟩ := ih hsteps
          exact ⟨spelling :: spellings, .cons hs hmore, rfl⟩

theorem steps?_eq_ok_iff {steps : List Step} {cs : List Char} :
    steps? path cs = .ok steps ↔
      ∃ spellings, Forall₂ Spells steps spellings ∧ cs = spellings.flatten := by
  constructor
  · exact spells_of_steps?
  · rintro ⟨spellings, h, rfl⟩
    exact steps?_of_spells h

/-! ### Whole paths -/

theorem parse_eq_ok_iff {expression : String} {steps : List Step} :
    parse expression = .ok steps ↔
      ∃ spellings, Forall₂ Spells steps spellings ∧
        trim expression = String.ofList ('$' :: spellings.flatten) := by
  rw [parse]
  constructor
  · intro h
    split at h
    next rest hroot =>
      obtain ⟨spellings, hspells, rfl⟩ := steps?_eq_ok_iff.1 h
      refine ⟨spellings, hspells, ?_⟩
      rw [← hroot, String.ofList_toList]
    next => cases h
  · rintro ⟨spellings, hspells, htrim⟩
    rw [htrim]
    simp only [String.toList_ofList]
    exact steps?_of_spells hspells

theorem exists_spells {steps : List Step} {spellings : List (List Char)}
    (h : Forall₂ Spells steps spellings) {spelling : List Char} (hmem : spelling ∈ spellings) :
    ∃ s, Spells s spelling := by
  induction h with
  | nil => cases hmem
  | @cons s _ _ _ hs _ ih =>
      rcases List.mem_cons.1 hmem with rfl | hmem
      · exact ⟨s, hs⟩
      · exact ih hmem

/-- A path has no blank at its end if the name of a field after a point there has none. -/
theorem trim_spelled {steps : List Step} {spellings : List (List Char)}
    (h : Forall₂ Spells steps spellings)
    (hlast : ∀ name, spellings.getLast? = some ('.' :: name) →
      ∀ c, name.getLast? = some c → isBlank c = false) :
    trim (String.ofList ('$' :: spellings.flatten)) =
      String.ofList ('$' :: spellings.flatten) := by
  have hend : ∀ c, ('$' :: spellings.flatten).getLast? = some c → isBlank c = false := by
    intro c hc
    rcases List.eq_nil_or_concat spellings with rfl | ⟨init, last, rfl⟩
    · cases hc
      rfl
    · have hmem : last ∈ init.concat last := by simp
      obtain ⟨s, hs⟩ := exists_spells h hmem
      have hshown : last.getLast? = some c := by
        rw [List.concat_eq_append, List.flatten_append, List.flatten_singleton, ← List.cons_append,
          List.getLast?_append_of_ne_nil _ hs.ne_nil] at hc
        exact hc
      cases hs with
      | every => cases hshown; rfl
      | @field d name =>
          refine hlast (d :: name) (by simp) c ?_
          rwa [List.getLast?_cons_cons] at hshown
      | @bracketed _ inner =>
          rw [← List.cons_append, List.getLast?_concat] at hshown
          cases hshown
          rfl
  rw [trim, String.toList_ofList, trimList_eq_self rfl hend]

/-- **Paths are read as they are spelled.**  A text is read as some steps exactly if, without the
blanks around it, it is `$` with a spelling of each of them after it, one after the other.  So
whichever spelling each step is given in, the path is read as the steps, if the name of a field
after a point at its very end does not end in a blank. -/
theorem read_as_spelled :
    (∀ expression steps, parse expression = .ok steps ↔
      ∃ spellings, Forall₂ Spells steps spellings ∧
        trim expression = String.ofList ('$' :: spellings.flatten)) ∧
      ∀ steps spellings, Forall₂ Spells steps spellings →
        (∀ name, spellings.getLast? = some ('.' :: name) →
          ∀ c, name.getLast? = some c → isBlank c = false) →
        parse (String.ofList ('$' :: spellings.flatten)) = .ok steps := by
  refine ⟨fun expression steps => parse_eq_ok_iff, fun steps spellings h hlast => ?_⟩
  exact parse_eq_ok_iff.2 ⟨spellings, h, trim_spelled h hlast⟩

end Bindery.Json.Path
