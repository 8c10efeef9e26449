/-!
# Bindery — Text — Cut

Cutting a list of characters at a mark.  Each cut loses nothing: what it returns, put together
with the mark it cut at, is the list it was given (`eq_append_of_after?`,
`eq_append_of_splitOn?`, `eq_append_of_cutAt?`); and it is made at the first mark
(`not_mem_of_splitOn?`, `not_infix_of_cutAt?`).
-/

namespace Bindery.Text

/-- What follows `head` in a list that starts with it. -/
def after? : List Char → List Char → Option (List Char)
  | [], cs => some cs
  | _ :: _, [] => none
  | h :: hs, c :: cs => if h = c then after? hs cs else none

/-- The parts of a list before and after the first `mark` in it. -/
def splitOn? (mark : Char) : List Char → Option (List Char × List Char)
  | [] => none
  | c :: cs =>
    if c = mark then some ([], cs)
    else (splitOn? mark cs).map fun (a, b) => (c :: a, b)

/-- The parts of a list before and after the first place where `mark` occurs in it. -/
def cutAt? (mark : List Char) : List Char → Option (List Char × List Char)
  | [] => (after? mark []).map fun rest => ([], rest)
  | c :: cs =>
    match after? mark (c :: cs) with
    | some rest => some ([], rest)
    | none => (cutAt? mark cs).map fun (a, b) => (c :: a, b)

/-- Whether `part` occurs in a list. -/
def occurs (part cs : List Char) : Bool :=
  (cutAt? part cs).isSome

/-- Whether one text starts with another. -/
def startsWith (s head : String) : Bool :=
  (after? head.toList s.toList).isSome

/-- Whether `part` occurs in a text. -/
def contains (s part : String) : Bool :=
  occurs part.toList s.toList

/-- The pieces of a list between the places where `mark` occurs, for a non-empty `mark`. -/
def pieces (mark : List Char) (cs : List Char) : List (List Char) :=
  go cs.length cs
where
  /-- At most `n` more cuts; each takes at least one character off. -/
  go : Nat → List Char → List (List Char)
    | 0, cs => [cs]
    | n + 1, cs =>
      match cutAt? mark cs with
      | some (a, b) => a :: go n b
      | none => [cs]

theorem eq_append_of_after? {h cs rest : List Char} (e : after? h cs = some rest) :
    cs = h ++ rest := by
  induction h generalizing cs with
  | nil => simpa [after?] using e
  | cons a as ih =>
    cases cs with
    | nil => simp [after?] at e
    | cons c cs =>
      by_cases hc : a = c
      · subst hc
        simp only [after?, if_true] at e
        simp [ih e]
      · simp [after?, hc] at e

theorem after?_append (h rest : List Char) : after? h (h ++ rest) = some rest := by
  induction h with
  | nil => rfl
  | cons a as ih => simp [after?, ih]

theorem after?_eq_some_iff {h cs rest : List Char} :
    after? h cs = some rest ↔ cs = h ++ rest :=
  ⟨eq_append_of_after?, fun e => e ▸ after?_append h rest⟩

theorem eq_append_of_splitOn? {m : Char} {cs a b : List Char}
    (e : splitOn? m cs = some (a, b)) : cs = a ++ m :: b := by
  induction cs generalizing a with
  | nil => simp [splitOn?] at e
  | cons c cs ih =>
    by_cases hc : c = m
    · subst hc; simp [splitOn?] at e; obtain ⟨rfl, rfl⟩ := e; rfl
    · simp only [splitOn?, if_neg hc, Option.map_eq_some_iff] at e
      obtain ⟨⟨x, y⟩, hxy, hp⟩ := e
      cases hp
      simp [ih hxy]

/-- The part before the mark does not hold it. -/
theorem not_mem_of_splitOn? {m : Char} {cs a b : List Char}
    (e : splitOn? m cs = some (a, b)) : m ∉ a := by
  induction cs generalizing a with
  | nil => simp [splitOn?] at e
  | cons c cs ih =>
    by_cases hc : c = m
    · subst hc
      simp only [splitOn?, if_true, Option.some.injEq, Prod.mk.injEq] at e
      exact e.1 ▸ List.not_mem_nil
    · simp only [splitOn?, if_neg hc, Option.map_eq_some_iff] at e
      obtain ⟨⟨x, y⟩, hxy, hp⟩ := e
      cases hp
      exact fun hm => (List.mem_cons.1 hm).elim (fun h => hc h.symm) (ih hxy)

theorem splitOn?_append {m : Char} {a : List Char} (h : m ∉ a) (b : List Char) :
    splitOn? m (a ++ m :: b) = some (a, b) := by
  induction a with
  | nil => rw [List.nil_append, splitOn?, if_pos rfl]
  | cons c a ih =>
    obtain ⟨hc, ha⟩ := not_or.1 fun hor => h (List.mem_cons.2 hor)
    rw [List.cons_append, splitOn?, if_neg (Ne.symm hc), ih ha]
    rfl

theorem splitOn?_eq_none_iff {m : Char} {cs : List Char} : splitOn? m cs = none ↔ m ∉ cs := by
  induction cs with
  | nil => simp [splitOn?]
  | cons c cs ih =>
    rw [splitOn?]
    split
    next hc => simp [hc]
    next hc => rw [Option.map_eq_none_iff, ih, List.mem_cons, not_or, and_iff_right (Ne.symm hc)]

theorem eq_append_of_cutAt? {m cs a b : List Char}
    (e : cutAt? m cs = some (a, b)) : cs = a ++ m ++ b := by
  induction cs generalizing a with
  | nil =>
    simp only [cutAt?, Option.map_eq_some_iff] at e
    obtain ⟨r, hr, hp⟩ := e
    cases hp
    simpa using eq_append_of_after? hr
  | cons c cs ih =>
    rw [cutAt?] at e
    split at e
    · next rest hr => cases e; simpa using eq_append_of_after? hr
    · obtain ⟨⟨x, y⟩, hxy, hp⟩ := Option.map_eq_some_iff.1 e
      cases hp
      simp [ih hxy]

/-- There is a place to cut at exactly where a mark occurs. -/
theorem cutAt?_eq_none_iff {mark cs : List Char} : cutAt? mark cs = none ↔ ¬ mark <:+: cs := by
  constructor
  · rintro h ⟨a, b, rfl⟩
    induction a with
    | nil =>
      cases hcs : mark ++ b with
      | nil =>
        obtain ⟨rfl, rfl⟩ := List.append_eq_nil_iff.1 hcs
        cases h
      | cons c cs =>
        have hafter := after?_append mark b
        rw [List.nil_append, hcs] at h
        rw [hcs] at hafter
        rw [cutAt?, hafter] at h
        cases h
    | cons c a ih =>
      rw [List.cons_append, List.cons_append, cutAt?] at h
      split at h
      next => cases h
      next => exact ih (Option.map_eq_none_iff.1 h)
  · intro h
    cases hcut : cutAt? mark cs with
    | none => rfl
    | some cut => exact absurd ⟨cut.1, cut.2, (eq_append_of_cutAt? hcut).symm⟩ h

/-- A mark that begins neither in a part nor at the end of it is first found after the part. -/
theorem cutAt?_append {mark a : List Char} (hmark : mark ≠ [])
    (h : ¬ mark <:+: a ++ mark.dropLast) (b : List Char) :
    cutAt? mark (a ++ mark ++ b) = some (a, b) := by
  induction a with
  | nil =>
    cases mark with
    | nil => exact absurd rfl hmark
    | cons m mark =>
      rw [List.nil_append, List.cons_append, cutAt?, ← List.cons_append, after?_append]
  | cons c a ih =>
    have hnone : after? mark (c :: (a ++ mark ++ b)) = none := by
      cases e : after? mark (c :: (a ++ mark ++ b)) with
      | none => rfl
      | some rest =>
        have hstart : mark <+: c :: a ++ mark.dropLast ++ ([mark.getLast hmark] ++ b) := by
          refine ⟨rest, (eq_append_of_after? e).symm.trans ?_⟩
          rw [List.append_assoc (c :: a), ← List.append_assoc mark.dropLast,
            List.dropLast_concat_getLast]
          simp
        have hlength : mark.length ≤ (c :: a ++ mark.dropLast).length := by
          simp only [List.length_append, List.length_cons, List.length_dropLast]
          omega
        exact absurd (List.prefix_of_prefix_length_le hstart (List.prefix_append _ _)
          hlength).isInfix h
    rw [List.cons_append, List.cons_append, cutAt?, hnone,
      ih fun hin => h (hin.trans (List.suffix_cons c _).isInfix)]
    rfl

/-- A mark whose first character is not in a part does not begin in the part. -/
theorem not_infix_append_dropLast {m : Char} {a : List Char} (h : m ∉ a) (mark : List Char) :
    ¬ m :: mark <:+: a ++ (m :: mark).dropLast := by
  rintro ⟨x, y, e⟩
  have hlength : x.length < a.length := by
    have := congrArg List.length e
    simp only [List.length_append, List.length_cons, List.length_dropLast] at this
    omega
  have hm : (x ++ m :: mark ++ y)[x.length]? = some m := by simp
  rw [e, List.getElem?_append_left hlength] at hm
  exact h (List.mem_of_getElem? hm)

/-- There is no mark in the part before the first one. -/
theorem not_infix_of_cutAt? {mark cs a b : List Char} (hmark : mark ≠ [])
    (e : cutAt? mark cs = some (a, b)) : ¬ mark <:+: a := by
  induction cs generalizing a with
  | nil =>
    have heq := eq_append_of_cutAt? e
    simp at heq
    exact absurd heq.2.1 hmark
  | cons c cs ih =>
    rw [cutAt?] at e
    split at e
    next =>
      cases e
      exact fun hin => hmark (List.eq_nil_of_infix_nil hin)
    next hnone =>
      obtain ⟨⟨x, y⟩, hxy, hp⟩ := Option.map_eq_some_iff.1 e
      cases hp
      intro hin
      rcases List.infix_cons_iff.1 hin with ⟨rest, hrest⟩ | hin
      · -- the mark would have been found here
        have hafter : after? mark (c :: cs) = some (rest ++ mark ++ b) := by
          rw [after?_eq_some_iff, eq_append_of_cutAt? hxy, ← List.append_assoc,
            ← List.append_assoc, hrest]
          simp
        rw [hnone] at hafter
        cases hafter
      · exact ih hxy hin

end Bindery.Text
