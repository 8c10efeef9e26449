/-!
# Bindery — Entries

Named texts in the order in which they were set, the latest first.  A name occurs once:
setting it again moves it to the front.
-/

namespace Bindery

/-- Named texts, the one set last in front. -/
abbrev Entries := List (String × String)

namespace Entries

/-- The text under a name. -/
def find? (name : String) (e : Entries) : Option String :=
  e.lookup name

/-- The entries with a text under a name, in front of the others. -/
def put (name value : String) (e : Entries) : Entries :=
  (name, value) :: e.filter (fun p => p.1 ≠ name)

theorem find?_put_self (name value : String) (e : Entries) :
    find? name (put name value e) = some value := by
  simp [find?, put]

/-- Leaving other names out does not change the text under a name. -/
theorem find?_filter (keep : String → Bool) {name : String} (h : keep name = true) (e : Entries) :
    find? name (e.filter fun p => keep p.1) = find? name e := by
  unfold find?
  induction e with
  | nil => rfl
  | cons p rest ih =>
    obtain ⟨k, v⟩ := p
    by_cases hk : name = k
    · rw [List.filter_cons_of_pos (by simp [← hk, h])]
      simp [hk]
    · have hb : (name == k) = false := by simpa using hk
      rw [List.filter_cons, List.lookup_cons, hb]
      split
      · rw [List.lookup_cons, hb]
        exact ih
      · exact ih

theorem find?_put_other {name other : String} (h : other ≠ name) (value : String)
    (e : Entries) : find? other (put name value e) = find? other e := by
  have ho : (other == name) = false := by simpa using h
  rw [put, find?, List.lookup_cons, ho]
  exact find?_filter (fun key => key ≠ name) (by simpa using h) e

/-- Setting a name keeps every name once. -/
theorem nodup_put (name value : String) {e : Entries} (h : (e.map Prod.fst).Nodup) :
    ((put name value e).map Prod.fst).Nodup := by
  simp only [put, List.map_cons, List.nodup_cons]
  refine ⟨by simp, ?_⟩
  exact h.sublist (List.Sublist.map _ List.filter_sublist)

end Entries

end Bindery
