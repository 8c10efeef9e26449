import Bindery.Script

/-!
# Bindery — Proofs — Wrapping

Where the two wrappers of scripts wrap as they should.  A script begins with the keyword if no
character that goes on an identifier follows it, and then it is to be left alone; any other script
is to be put after the keyword (`wrapped`).  The wrapper of conditions takes every first word that
begins like the keyword for the keyword, and the wrapper of values knows the keyword only by a blank
or a semicolon after it.  So each of them errs on scripts of one kind (`IsLongerWord`,
`IsUnspaced`), and they disagree exactly where one of them errs.

Which letters and digits go on an identifier does not matter for that, so it is left open.
-/

namespace Bindery

open Bindery.Text

namespace Text

/-- What follows a mark in two parts. -/
theorem after?_append_mark (a b cs : List Char) :
    after? (a ++ b) cs = (after? a cs).bind (after? b) := by
  induction a generalizing cs with
  | nil => rfl
  | cons m a ih =>
      cases cs with
      | nil => rfl
      | cons c cs =>
          by_cases h : m = c
          · simp only [List.cons_append, after?, if_pos h, ih]
          · simp only [List.cons_append, after?, if_neg h, Option.bind_none]

theorem isSome_after?_singleton (m : Char) (cs : List Char) :
    (after? [m] cs).isSome = (cs.head? == some m) := by
  cases cs with
  | nil => rfl
  | cons c cs =>
      by_cases h : m = c
      · simp [after?, h]
      · simp [after?, h, Ne.symm h]

end Text

namespace Script

/-- The keyword that makes a script yield a value. -/
def keyword : List Char := ['r', 'e', 't', 'u', 'r', 'n']

variable (continues : Char → Bool)

/-- Whether a script begins with the keyword, and not with a longer word. -/
def isReturn (body : String) : Bool :=
  (after? keyword body.toList).any fun rest => !rest.head?.any continues

/-- A script as it should be wrapped. -/
def wrapped (script : String) : String :=
  if isReturn continues (trim script) then trim script else "return " ++ trim script

/-- A script that begins with a longer word than the keyword, but one that begins like it. -/
def IsLongerWord (body : String) : Prop :=
  ∃ c rest, body.toList = keyword ++ c :: rest ∧ continues c = true

/-- A script that begins with the keyword, with neither a blank nor a semicolon after it. -/
def IsUnspaced (body : String) : Prop :=
  ∃ rest, body.toList = keyword ++ rest ∧
    ∀ c, rest.head? = some c → continues c = false ∧ c ≠ ' ' ∧ c ≠ ';'

/-- A script is not what the keyword in front of it makes of it. -/
theorem return_append_ne (body : String) : "return " ++ body ≠ body := by
  intro h
  have hlength := congrArg String.length h
  rw [String.length_append] at hlength
  simp at hlength

theorem predicate_eq (script : String) :
    predicate script =
      if (after? keyword (trim script).toList).isSome then trim script
      else "return " ++ trim script := rfl

theorem returning_eq (script : String) :
    returning script =
      if (after? keyword (trim script).toList).any
          fun rest => rest.head? == some ' ' || rest.head? == some ';' then trim script
      else "return " ++ trim script := by
  have hmark (m : Char) (body : String) :
      startsWith body (String.ofList (keyword ++ [m])) =
        (after? keyword body.toList).any fun rest => rest.head? == some m := by
    rw [startsWith, String.toList_ofList, after?_append_mark]
    cases after? keyword body.toList with
    | none => rfl
    | some rest => exact isSome_after?_singleton m rest
  have hblank := hmark ' ' (trim script)
  have hsemicolon := hmark ';' (trim script)
  unfold returning
  simp only
  change (if startsWith (trim script) (String.ofList (keyword ++ [' '])) ||
    startsWith (trim script) (String.ofList (keyword ++ [';'])) then _ else _) = _
  rw [hblank, hsemicolon]
  cases after? keyword (trim script).toList <;> rfl

section

variable {continues} {body : String}

theorem isLongerWord_iff :
    IsLongerWord continues body ↔
      ∃ c rest, after? keyword body.toList = some (c :: rest) ∧ continues c = true := by
  simp only [IsLongerWord, after?_eq_some_iff]

theorem isUnspaced_iff :
    IsUnspaced continues body ↔
      ∃ rest, after? keyword body.toList = some rest ∧
        ∀ c, rest.head? = some c → continues c = false ∧ c ≠ ' ' ∧ c ≠ ';' := by
  simp only [IsUnspaced, after?_eq_some_iff]

end

/-- The wrapper of conditions errs on longer words. -/
theorem predicate_eq_wrapped_iff (script : String) :
    predicate script = wrapped continues script ↔ ¬ IsLongerWord continues (trim script) := by
  have hne := return_append_ne (trim script)
  rw [isLongerWord_iff, predicate_eq, wrapped, isReturn]
  cases after? keyword (trim script).toList with
  | none => simp
  | some rest =>
      cases rest with
      | nil => simp
      | cons c rest => by_cases hc : continues c = true <;> simp [hc, hne.symm]

/-- The wrapper of values errs on keywords with neither a blank nor a semicolon after them. -/
theorem returning_eq_wrapped_iff (hblank : continues ' ' = false)
    (hsemicolon : continues ';' = false) (script : String) :
    returning script = wrapped continues script ↔ ¬ IsUnspaced continues (trim script) := by
  have hne := return_append_ne (trim script)
  rw [isUnspaced_iff, returning_eq, wrapped, isReturn]
  cases after? keyword (trim script).toList with
  | none => simp
  | some rest =>
      cases rest with
      | nil => simp [hne]
      | cons c rest =>
          by_cases hb : c = ' '
          · simp [hb, hblank]
          · by_cases hs : c = ';'
            · simp [hs, hsemicolon]
            · by_cases hc : continues c = true <;> simp [hb, hs, hc, hne]

/-- What follows the keyword does not both go on a word and end it. -/
theorem not_isUnspaced_of_isLongerWord {body : String} (h : IsLongerWord continues body) :
    ¬ IsUnspaced continues body := by
  rw [isLongerWord_iff] at h
  rw [isUnspaced_iff]
  rintro ⟨rest, hrest, hends⟩
  obtain ⟨c, more, hmore, hc⟩ := h
  rw [hmore] at hrest
  cases hrest
  rw [(hends c rfl).1] at hc
  cases hc

/-- **Where the wrappers wrap as they should.**  That of conditions does so except for a longer word
that begins like the keyword, which it leaves alone.  That of values does so except for the keyword
with neither a blank nor a semicolon after it, before which it puts another one.  The two agree
exactly where neither is the case. -/
theorem wrapped_except (continues : Char → Bool) (hblank : continues ' ' = false)
    (hsemicolon : continues ';' = false) (script : String) :
    (predicate script = wrapped continues script ↔ ¬ IsLongerWord continues (trim script)) ∧
      (returning script = wrapped continues script ↔ ¬ IsUnspaced continues (trim script)) ∧
      (predicate script = returning script ↔
        ¬ IsLongerWord continues (trim script) ∧ ¬ IsUnspaced continues (trim script)) := by
  have hpredicate := predicate_eq_wrapped_iff continues script
  have hreturning := returning_eq_wrapped_iff continues hblank hsemicolon script
  refine ⟨hpredicate, hreturning, fun h => ?_, fun ⟨hword, hspace⟩ => ?_⟩
  · -- where one of them errs the other one does not
    constructor
    · intro hword
      have hright := hreturning.2 (not_isUnspaced_of_isLongerWord continues hword)
      exact hpredicate.1 (h.trans hright) hword
    · intro hspace
      have hright := hpredicate.2 fun hword => not_isUnspaced_of_isLongerWord continues hword hspace
      exact hreturning.1 (h.symm.trans hright) hspace
  · exact (hpredicate.2 hword).trans (hreturning.2 hspace).symm

/-- Whether a character goes on an identifier, where letters and digits are those of ASCII. -/
def continuesName (c : Char) : Bool :=
  c.isAlphanum || c == '_' || c == '$'

/-- A script whose value is in brackets: the wrapper of values takes it for no statement. -/
theorem wrapped_except_brackets :
    continuesName ' ' = false ∧ continuesName ';' = false ∧
      IsUnspaced continuesName (trim "return(x)") ∧
      predicate "return(x)" = wrapped continuesName "return(x)" ∧
      returning "return(x)" ≠ wrapped continuesName "return(x)" := by
  have hblank : continuesName ' ' = false := by decide
  have hsemicolon : continuesName ';' = false := by decide
  obtain ⟨-, hreturning, -⟩ := wrapped_except continuesName hblank hsemicolon "return(x)"
  have hspace : IsUnspaced continuesName (trim "return(x)") := by
    refine ⟨['(', 'x', ')'], by decide, fun c hc => ?_⟩
    cases hc
    decide
  exact ⟨hblank, hsemicolon, hspace, by decide, fun h => hreturning.1 h hspace⟩

/-- The wrappers disagree on a script whose value is in brackets, where that of values errs, and on
one whose first word begins like the keyword, where that of conditions errs. -/
theorem wrappers_disagree :
    wrapped continuesName "return(x)" = "return(x)" ∧
      predicate "return(x)" = "return(x)" ∧ returning "return(x)" = "return return(x)" ∧
      wrapped continuesName "returned" = "return returned" ∧
      predicate "returned" = "returned" ∧ returning "returned" = "return returned" := by
  decide

end Script

end Bindery
