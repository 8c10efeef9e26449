import Bindery.Proofs.PageScope
import Bindery.Proofs.Reading

/-!
# Bindery — Proofs — Live text

The texts that were read from the page and are still bound.  As long as no one else binds the text
of an element, what stands there is a text that was read lately, and it is remembered as read: it
stands in the page scope and nowhere else, so that forgetting what was read finds it
(`Resolver.Coherent`).

Lately means in the part of the log after `start`.  Where nothing is left to be forgotten the log
may be cut anew (`Coherent.of_clear`), and that is what an action, another page or another feature
makes of a coherent state (`Coherent.clear_forgetLiveText`).
-/

namespace Bindery

namespace ScopeStack

variable {key : String} {s : ScopeStack}

/-! ### Forgetting -/

theorem Paged.forget (h : s.Paged key) (read : String × String) :
    (Resolver.forget s read).Paged key := by
  unfold Resolver.forget
  split
  · exact h.set _ _
  · exact h

/-- What is left under a key after a reading is forgotten was not that reading. -/
theorem mem_forget (h : s.Paged key) {read : String × String} {v : String}
    (hv : (key, v) ∈ (Resolver.forget s read).current.entries) :
    v = "" ∨ (key, v) ∈ s.current.entries ∧ read ≠ (key, v) := by
  unfold Resolver.forget at hv
  split at hv
  next hfound =>
    rw [current_set] at hv
    rcases Entries.mem_put_iff.1 hv with heq | ⟨hv, hne⟩
    · exact .inl (congrArg Prod.snd heq)
    · exact .inr ⟨hv, fun heq => hne (by rw [heq])⟩
  next hlost =>
    refine .inr ⟨hv, fun heq => hlost ?_⟩
    rw [heq]
    exact find?_of_mem_current h hv

/-- After readings are forgotten, what is left under a key is none of them. -/
theorem mem_foldl_forget (reads : Entries) (h : s.Paged key) {v : String}
    (hv : (key, v) ∈ (reads.foldl Resolver.forget s).current.entries) :
    v = "" ∨ (key, v) ∈ s.current.entries ∧ (key, v) ∉ reads := by
  induction reads generalizing s with
  | nil => exact .inr ⟨hv, List.not_mem_nil⟩
  | cons read reads ih =>
      rcases ih (h.forget read) hv with hempty | ⟨hmem, hnot⟩
      · exact .inl hempty
      · rcases mem_forget h hmem with hempty | ⟨hmem, hne⟩
        · exact .inl hempty
        · refine .inr ⟨hmem, fun hin => ?_⟩
          rcases List.mem_cons.1 hin with heq | hin
          · exact hne heq.symm
          · exact hnot hin

theorem Paged.foldl_forget (h : s.Paged key) (reads : Entries) :
    (reads.foldl Resolver.forget s).Paged key :=
  Resolver.foldl_forget (fun _ other value h => h.set other value) reads h

end ScopeStack

namespace Resolver

variable {ι : Type} [PageReader ι] {r : Resolver ι} {E : String} {start : List LiveReading}
  {s t : State}

/-! ### Coherent states -/

/-- One of some readings is a genuine one of an element and gave a text. -/
def Heard (r : Resolver ι) (E v : String) (readings : List LiveReading) : Prop :=
  ∃ ρ ∈ readings, ρ.locator.element = E ∧ ρ.text = v ∧ ρ.Genuine r

theorem Heard.mono {v : String} {readings : List LiveReading} (more : List LiveReading)
    (h : r.Heard E v readings) : r.Heard E v (more ++ readings) := by
  obtain ⟨ρ, hρ, hrest⟩ := h
  exact ⟨ρ, List.mem_append_right _ hρ, hrest⟩

/-- The text that is bound for an element was read since `start`, and is remembered as read. -/
structure Coherent (r : Resolver ι) (E : String) (start : List LiveReading) (s : State) :
    Prop where
  paged : s.store.Paged (Key.text E)
  since : ∃ new, s.readings = new ++ start ∧
    ∀ v, (Key.text E, v) ∈ s.store.current.entries → v ≠ "" →
      r.Heard E v new ∧ s.liveReads.find? (Key.text E) = some v

theorem Coherent.grown (h : r.Coherent E start s) : ∃ new, s.readings = new ++ start :=
  h.since.imp fun _ e => e.1

/-- No text is bound for an element. -/
structure Clear (E : String) (s : State) : Prop where
  paged : s.store.Paged (Key.text E)
  empty : ∀ v, (Key.text E, v) ∈ s.store.current.entries → v = ""

/-- Where no text is bound, the log is cut anew. -/
theorem Coherent.of_clear (h : Clear E s) : r.Coherent E s.readings s where
  paged := h.paged
  since := ⟨[], rfl, fun v hv hne => absurd (h.empty v hv) hne⟩

theorem Coherent.of_clear_since (h : Clear E s) (hnew : ∃ new, s.readings = new ++ start) :
    r.Coherent E start s where
  paged := h.paged
  since := hnew.imp fun _ e => ⟨e, fun v hv hne => absurd (h.empty v hv) hne⟩

/-- Forgetting what was read leaves no text of an element. -/
theorem Coherent.clear_forgetLiveText (h : r.Coherent E start s) : Clear E s.forgetLiveText where
  paged := h.paged.foldl_forget s.liveReads
  empty := by
    intro v hv
    rcases ScopeStack.mem_foldl_forget s.liveReads h.paged hv with hempty | ⟨hmem, hnot⟩
    · exact hempty
    · -- a text that is left would have been remembered, and so forgotten
      by_contra hne
      obtain ⟨new, -, hnew⟩ := h.since
      exact hnot (Entries.mem_of_find? (hnew v hmem hne).2)

/-! ### What keeps a state coherent -/

/-- What happens to the world does not matter. -/
theorem Coherent.of_world (h : r.Coherent E start s) (w : World) :
    r.Coherent E start { s with world := w } := ⟨h.paged, h.since⟩

theorem Clear.of_world (h : Clear E s) (w : World) : Clear E { s with world := w } :=
  ⟨h.paged, h.empty⟩

/-- Other bindings do not matter. -/
theorem Coherent.set (h : r.Coherent E start s) {key : String} (hkey : key ≠ Key.text E)
    (value : String) : r.Coherent E start { s with store := s.store.set key value } where
  paged := h.paged.set key value
  since := h.since.imp fun _ ⟨e, hv⟩ =>
    ⟨e, fun v hmem => hv v ((ScopeStack.mem_set_current hkey).1 hmem)⟩

theorem Clear.set (h : Clear E s) {key value : String} (hkey : key = Key.text E → value = "") :
    Clear E { s with store := s.store.set key value } where
  paged := h.paged.set key value
  empty := by
    intro v hv
    rw [ScopeStack.current_set] at hv
    rcases Entries.mem_put_iff.1 hv with heq | ⟨hv, -⟩
    · obtain ⟨hkey', rfl⟩ := Prod.mk.inj heq
      exact hkey hkey'.symm
    · exact h.empty v hv

/-- A genuine reading is the text of its element from now on, and leaves that of others. -/
theorem Coherent.hearing (h : r.Coherent E start s) {l : Locator} {w : World} {text : String}
    (hg : LiveReading.Genuine r ⟨l, s.store, s.world, text⟩) :
    r.Coherent E start (s.hearing l w text) where
  paged := h.paged.set _ _
  since := by
    obtain ⟨new, e, hnew⟩ := h.since
    refine ⟨⟨l, s.store, s.world, text⟩ :: new, by simp [State.hearing, e], fun v hv hne => ?_⟩
    by_cases hl : l.element = E
    · -- the text that stood there before was moved away
      subst hl
      rw [State.hearing, ScopeStack.current_set] at hv
      have hvt : v = text := by
        rcases Entries.mem_put_iff.1 hv with heq | ⟨-, hdiff⟩
        · exact (Prod.mk.inj heq).2
        · exact absurd rfl hdiff
      subst hvt
      exact ⟨⟨_, List.mem_cons_self, rfl, rfl, hg⟩, Entries.find?_put_self _ _ _⟩
    · have hkey : Key.text l.element ≠ Key.text E := fun h => hl (Key.text_injective h)
      obtain ⟨hheard, hfind⟩ := hnew v ((ScopeStack.mem_set_current hkey).1 hv) hne
      refine ⟨hheard.mono [_], ?_⟩
      exact (Entries.find?_put_other hkey.symm text s.liveReads).trans hfind

/-- Lookups of every depth keep a state coherent. -/
theorem permits_coherent (r : Resolver ι) (E : String) (start : List LiveReading) :
    r.Permits (.keeping (r.Coherent E start)) :=
  permits_of_world (fun _ w h => h.of_world w) (fun _ url h => h.set (Key.currentUrl_ne_text E) url)
    fun _ hl hw hdone h => (hdone h).hearing (genuine_of_located hl hw)

end Resolver

end Bindery
