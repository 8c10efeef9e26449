/-!
# Bindery — Text — Blank

Blank characters and trimming.  A character is blank when it has the Unicode property
`White_Space`, so a no-break space and an ideographic space are blank while a zero-width space
and a byte order mark are not.  `trim` removes the blank characters at both ends of a text and
nothing else.
-/

namespace Bindery.Text

/-- The characters with the Unicode property `White_Space`. -/
def isBlank (c : Char) : Bool :=
  let n := c.toNat
  (9 ≤ n && n ≤ 13) || n == 0x20 || n == 0x85 || n == 0xA0 || n == 0x1680 ||
    (0x2000 ≤ n && n ≤ 0x200A) || n == 0x2028 || n == 0x2029 || n == 0x202F || n == 0x205F ||
    n == 0x3000

/-- The characters of a list up to its last one that is not blank. -/
def trimEnd (cs : List Char) : List Char :=
  (cs.reverse.dropWhile isBlank).reverse

/-- A list of characters without the blank ones at either end. -/
def trimList (cs : List Char) : List Char :=
  trimEnd (cs.dropWhile isBlank)

/-- A text without the blank characters at either end. -/
def trim (s : String) : String :=
  String.ofList (trimList s.toList)

/-- A text is blank when trimming leaves nothing of it. -/
def blank (s : String) : Bool :=
  s.toList.all isBlank

/-- A text with the letters `A` to `Z` in lower case and every other character as it is. -/
def lowerAscii (s : String) : String :=
  String.ofList (s.toList.map Char.toLower)

/-- What is left after dropping blank characters starts with one that is not blank. -/
theorem head_dropWhile_isBlank {c : Char} {cs rest : List Char}
    (h : cs.dropWhile isBlank = c :: rest) : isBlank c = false := by
  induction cs with
  | nil => simp at h
  | cons d ds ih =>
    by_cases hd : isBlank d
    · rw [List.dropWhile_cons_of_pos hd] at h; exact ih h
    · rw [List.dropWhile_cons_of_neg hd] at h
      cases h; simpa using hd

theorem mem_dropWhile_isBlank {c : Char} {cs : List Char} (h : c ∈ cs) (hc : isBlank c = false) :
    c ∈ cs.dropWhile isBlank := by
  induction cs with
  | nil => cases h
  | cons d ds ih =>
    by_cases hd : isBlank d
    · have hne : c ≠ d := fun heq => by rw [heq, hd] at hc; cases hc
      rw [List.dropWhile_cons_of_pos hd]
      exact ih ((List.mem_cons.1 h).resolve_left hne)
    · rw [List.dropWhile_cons_of_neg hd]
      exact h

/-- A character that is not blank is not trimmed. -/
theorem mem_trimList {c : Char} {cs : List Char} (h : c ∈ cs) (hc : isBlank c = false) :
    c ∈ trimList cs :=
  List.mem_reverse.2
    (mem_dropWhile_isBlank (List.mem_reverse.2 (mem_dropWhile_isBlank h hc)) hc)

/-- A list of characters with no blank one at either end is not trimmed. -/
theorem trimList_eq_self {c : Char} {cs : List Char} (hfirst : isBlank c = false)
    (hlast : ∀ d, (c :: cs).getLast? = some d → isBlank d = false) :
    trimList (c :: cs) = c :: cs := by
  have hstart : (c :: cs).dropWhile isBlank = c :: cs := by
    rw [List.dropWhile_cons_of_neg (by simp [hfirst])]
  rw [trimList, hstart, trimEnd]
  cases hreverse : (c :: cs).reverse with
  | nil => simp at hreverse
  | cons d ds =>
    have hd : isBlank d = false := hlast d (by rw [List.getLast?_eq_head?_reverse, hreverse]; rfl)
    rw [List.dropWhile_cons_of_neg (by simp [hd]), ← hreverse, List.reverse_reverse]

/-- What ends in no blank is not trimmed at its end, and neither is it where more follows. -/
theorem trimEnd_append {cs : List Char} (h : trimEnd cs = cs) (ds : List Char) :
    trimEnd (cs ++ ds) = cs ++ trimEnd ds := by
  have hdrop : cs.reverse.dropWhile isBlank = cs.reverse := by
    rw [← List.reverse_eq_iff]
    exact h
  rw [trimEnd, List.reverse_append, List.dropWhile_append, hdrop]
  split
  next hblank =>
    rw [List.isEmpty_iff] at hblank
    rw [List.reverse_reverse, trimEnd, hblank, List.reverse_nil, List.append_nil]
  next => rw [List.reverse_append, List.reverse_reverse, trimEnd]

theorem toList_trim (s : String) : (trim s).toList = trimList s.toList := by
  simp [trim]

/-- A text is blank exactly when trimming leaves nothing of it. -/
theorem trim_eq_empty_iff {s : String} : trim s = "" ↔ blank s = true := by
  rw [← String.toList_inj, toList_trim, String.toList_empty, blank, List.all_eq_true]
  constructor
  · intro h c hc
    by_cases hblank : isBlank c = true
    · exact hblank
    · have hmem := mem_trimList hc (Bool.eq_false_iff.2 hblank)
      rw [h] at hmem
      cases hmem
  · intro h
    cases hdrop : s.toList.dropWhile isBlank with
    | nil =>
      rw [trimList, hdrop]
      rfl
    | cons c rest =>
      have hmem : c ∈ s.toList :=
        (List.dropWhile_sublist isBlank).subset (hdrop ▸ List.mem_cons_self)
      exact absurd (h c hmem) (by simp [head_dropWhile_isBlank hdrop])

/-- What is left of a text by trimming is blank only if nothing is left. -/
theorem blank_trim_iff {s : String} : blank (trim s) = true ↔ trim s = "" := by
  refine ⟨fun h => ?_, fun h => by rw [h]; rfl⟩
  rw [blank, toList_trim, List.all_eq_true] at h
  rw [← String.toList_inj, toList_trim, String.toList_empty]
  -- the last character that is left is not blank
  cases hdrop : (s.toList.dropWhile isBlank).reverse.dropWhile isBlank with
  | nil =>
    rw [trimList, trimEnd, hdrop]
    rfl
  | cons c rest =>
    have hmem : c ∈ trimList s.toList := by
      rw [trimList, trimEnd, hdrop]
      simp
    exact absurd (h c hmem) (by simp [head_dropWhile_isBlank hdrop])

end Bindery.Text
