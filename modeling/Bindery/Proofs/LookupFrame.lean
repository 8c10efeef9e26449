import Bindery.Proofs.Bindings
import Bindery.Proofs.Reading

/-!
# Bindery — Proofs — Lookup frame

What a lookup leaves of the bindings.  It may set two kinds of keys, and only in the innermost
scope: the address of the page, and the text of an element that it read from the page.  What stands
under other keys keeps its value and its place among the others, outer scopes stay as they are, and
no text that is not empty is lost (`ScopeStack.Reframed`).

That reading an element loses no text of its own rests on the scan that came first: it found
nothing, so the element had no text in any scope.  The locator of the element is looked up between
that scan and the reading, and may read other elements, which is why the relation looks back to the
bindings of the scan (`Reframed.set`).
-/

namespace Bindery

namespace ScopeStack

/-- How far `t` may differ from `s` where the keys `touched` were set: every scope is still there,
the outer ones are the same, what stands in the innermost one under other keys is the same in the
same order, and what was not empty is kept, the address of the page aside. -/
structure Reframed (touched : List String) (s t : ScopeStack) : Prop where
  outer : t.scopes.tail = s.scopes.tail
  kind : t.current.kind = s.current.kind
  name : t.current.name = s.current.name
  others : t.current.entries.filter (fun p => p.1 ∉ touched) =
    s.current.entries.filter (fun p => p.1 ∉ touched)
  kept : ∀ p ∈ s.current.entries, p.2 ≠ "" → p.1 ≠ Key.currentUrl → p ∈ t.current.entries

namespace Reframed

variable {touched more : List String} {s t u : ScopeStack}

theorem refl (touched : List String) (s : ScopeStack) : Reframed touched s s :=
  ⟨rfl, rfl, rfl, rfl, fun _ hp _ _ => hp⟩

/-- Entries that agree off some keys agree off more of them. -/
theorem filter_mono {e e' : Entries} (hsub : touched ⊆ more)
    (h : e.filter (fun p => p.1 ∉ touched) = e'.filter (fun p => p.1 ∉ touched)) :
    e.filter (fun p => p.1 ∉ more) = e'.filter (fun p => p.1 ∉ more) := by
  have twice (e : Entries) : (e.filter fun p => p.1 ∉ touched).filter (fun p => p.1 ∉ more) =
      e.filter fun p => p.1 ∉ more := by
    rw [List.filter_filter]
    refine List.filter_congr fun p _ => ?_
    by_cases hp : p.1 ∈ more
    · simp [hp]
    · have hnot : p.1 ∉ touched := fun ht => hp (hsub ht)
      simp [hp, hnot]
  rw [← twice e, ← twice e', h]

theorem mono (hsub : touched ⊆ more) (h : Reframed touched s t) : Reframed more s t :=
  ⟨h.outer, h.kind, h.name, filter_mono hsub h.others, h.kept⟩

theorem trans (h₁ : Reframed touched s t) (h₂ : Reframed touched t u) : Reframed touched s u where
  outer := h₂.outer.trans h₁.outer
  kind := h₂.kind.trans h₁.kind
  name := h₂.name.trans h₁.name
  others := h₂.others.trans h₁.others
  kept := fun p hp hv hk => h₂.kept p (h₁.kept p hp hv hk) hv hk

/-- A key is set that was empty at first, or is the address of the page. -/
theorem set {key : String} (value : String) (h : Reframed touched s t) (hk : key ∈ touched)
    (hempty : key ≠ Key.currentUrl → ∀ p ∈ s.current.entries, p.1 = key → p.2 = "") :
    Reframed touched s (t.set key value) where
  outer := by rw [tail_scopes_set, h.outer]
  kind := by rw [current_set, ← h.kind]; rfl
  name := by rw [current_set, ← h.name]; rfl
  others := by
    rw [current_set, ← h.others]
    show (t.current.entries.put key value).filter (fun p => p.1 ∉ touched) = _
    rw [Entries.put, List.filter_cons_of_neg (by simpa using hk), List.filter_filter]
    refine List.filter_congr fun p _ => ?_
    by_cases hp : p.1 ∈ touched
    · simp [hp]
    · have hne : p.1 ≠ key := fun e => hp (e ▸ hk)
      simp [hp, hne]
  kept := by
    intro p hp hv hurl
    rw [current_set]
    refine Entries.mem_put_iff.2 (.inr ⟨h.kept p hp hv hurl, fun e => hv ?_⟩)
    exact hempty (e ▸ hurl) p hp e

end Reframed

end ScopeStack

namespace Resolver

/-- The keys that some readings set, with that of the address of the page. -/
def touchedBy (readings : List LiveReading) : List String :=
  Key.currentUrl :: readings.map fun ρ => Key.text ρ.locator.element

theorem touchedBy_subset_left (new old : List LiveReading) :
    touchedBy new ⊆ touchedBy (new ++ old) := by
  simp [touchedBy]

theorem touchedBy_subset_right (new old : List LiveReading) :
    touchedBy old ⊆ touchedBy (new ++ old) := by
  refine List.cons_subset_cons _ ?_
  rw [List.map_append]
  exact List.subset_append_right _ _

variable {ι : Type} [PageReader ι] (r : Resolver ι)

/-- What lookups leave of a state: they add genuine readings to the log, and of the bindings they
set the keys of these readings and the address of the page. -/
def Frames (s t : State) : Prop :=
  ∃ new, t.readings = new ++ s.readings ∧ (∀ ρ ∈ new, ρ.Genuine r) ∧
    s.store.Reframed (touchedBy new) t.store

theorem Frames.refl (s : State) : r.Frames s s :=
  ⟨[], rfl, by simp, .refl _ _⟩

variable {r}

theorem Frames.trans {s t u : State} (h₁ : r.Frames s t) (h₂ : r.Frames t u) : r.Frames s u := by
  obtain ⟨new₁, e₁, g₁, f₁⟩ := h₁
  obtain ⟨new₂, e₂, g₂, f₂⟩ := h₂
  refine ⟨new₂ ++ new₁, by rw [e₂, e₁, List.append_assoc], fun ρ hρ => ?_, ?_⟩
  · rcases List.mem_append.1 hρ with hρ | hρ
    · exact g₂ ρ hρ
    · exact g₁ ρ hρ
  · exact .trans (f₁.mono (touchedBy_subset_right _ _)) (f₂.mono (touchedBy_subset_left _ _))

/-- What only changes the world changes no bindings. -/
theorem Frames.of_world {s t : State} {w : World} (h : r.Frames s t) :
    r.Frames s { t with world := w } := h

variable (r) in
/-- The bounds of lookups: however they end, they leave the bindings framed. -/
def frame : Bounds State := .ofRelation r.Frames (Frames.refl r) fun _ _ _ => .trans

/-- A reading of an element whose scan found nothing. -/
theorem frames_hearing {room : Nat} {name text : String} {s t : State} {l : Locator} {w : World}
    (hscan : s.store.scan name = .ok none) (hl : r.locatorAt room name s = (.ok l, t))
    (hw : PageReader.text r.interactor l t.world = (.ok text, w))
    (h : r.Frames s t) : r.Frames s (t.hearing l w text) := by
  obtain ⟨new, e, g, f⟩ := h
  refine ⟨⟨l, t.store, t.world, text⟩ :: new, by simp [State.hearing, e], fun ρ hρ => ?_, ?_⟩
  · rcases List.mem_cons.1 hρ with rfl | hρ
    · exact genuine_of_located hl hw
    · exact g ρ hρ
  · refine .set text (f.mono (touchedBy_subset_right [_] new)) (by simp [touchedBy]) ?_
    rintro - p hp hk
    rw [element_of_locatorAt hl] at hk
    exact ScopeStack.text_empty_of_scan hscan (ScopeStack.mem_entries_iff.2 (.inl hp)) hk

/-- Lookups of every depth leave the bindings framed. -/
theorem permits_frame : r.Permits r.frame :=
  permits_of_world (fun s _ => .of_world (.refl r s))
    (fun s url => ⟨[], rfl, by simp, .set url (.refl _ _) List.mem_cons_self fun h => absurd rfl h⟩)
    frames_hearing

theorem frames_of_within {α : Type} {a : Lookup α} (h : Act.Within r.frame a) {s t : State} {x : α}
    (hrun : a s = (.ok x, t)) : r.Frames s t := h.of_run hrun

/-- **The frame of lookups.**  The value of a name or of a reference, the text of a template and
the locator of an element are looked up without changing any binding but those of the address of
the page and of texts that were read from the page on the way, and without losing any text.  This
is so whatever reads the page, and whatever it does to the world. -/
theorem lookups_frame_bindings (r : Resolver ι) (s : State) (text : String) :
    r.Frames s (r.value text s).2 ∧ r.Frames s (r.referenceValue text s).2 ∧
      r.Frames s (r.interpolate text s).2 ∧ r.Frames s (r.locator text s).2 :=
  ⟨Act.Within.ofRelation_iff.1 (permits_frame.within_value text) s,
    Act.Within.ofRelation_iff.1 (permits_frame.within_referenceValue text) s,
    Act.Within.ofRelation_iff.1 (permits_frame.within_interpolate text) s,
    Act.Within.ofRelation_iff.1 (permits_frame.within_locator text) s⟩

end Resolver

end Bindery
