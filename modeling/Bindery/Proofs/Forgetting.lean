import Bindery.Proofs.Coherence
import Bindery.Proofs.EmptyBindings

/-!
# Bindery — Proofs — Forgetting

What is left when texts that were read are forgotten, whatever order they are visited in.  A key is
emptied if what is found under it is one of the texts to be forgotten (`ScopeStack.Forgets`), and
that is so whatever was forgotten before (`ScopeStack.forgets_cons_iff`).  So every key has
afterwards what the set of texts says (`ScopeStack.find?_foldl_forget`), and the entries that are
not empty are those of the other keys, as they stood (`ScopeStack.filled_foldl_forget`).

The emptied entries come to stand in front of the others in the order in which they were visited, so
two orders make two stacks; but no lookup and no scan tells them apart
(`State.forgetting_in_any_order`).
-/

namespace Bindery

/-! ### Entries that are left out -/

/-- Setting a name to nothing takes its text away and leaves the others as they stand. -/
theorem Entries.filled_put_empty (name : String) (e : Entries) :
    (e.put name "").filled = e.filled.filter fun p => p.1 ≠ name := by
  rw [put, filled, List.filter_cons_of_neg (by simp), filled, List.filter_filter,
    List.filter_filter]
  exact List.filter_congr fun p _ => Bool.and_comm _ _

namespace Scope

/-- A scope without the entries of some keys. -/
def without (gone : String → Prop) [DecidablePred gone] (s : Scope) : Scope :=
  { s with entries := s.entries.filter fun p => ¬ gone p.1 }

variable {gone gone' more : String → Prop} [DecidablePred gone] [DecidablePred gone']
  [DecidablePred more]

theorem without_congr (h : ∀ key, gone key ↔ gone' key) (s : Scope) :
    s.without gone = s.without gone' := by
  simp only [without, h]

theorem without_without (s : Scope) :
    (s.without gone).without more = s.without fun key => gone key ∨ more key := by
  simp only [without, List.filter_filter, not_or, Bool.decide_and, Bool.and_comm]

theorem without_of_forall_not (h : ∀ key, ¬ gone key) (s : Scope) : s.without gone = s := by
  have hentries : (s.entries.filter fun p => ¬ gone p.1) = s.entries :=
    List.filter_eq_self.2 fun p _ => decide_eq_true (h p.1)
  rw [without, hentries]

theorem filled_set_empty (key : String) (s : Scope) :
    (s.set key "").filled = s.filled.without (· = key) :=
  congrArg (Scope.mk s.kind s.name) (Entries.filled_put_empty key s.entries)

end Scope

namespace ScopeStack

variable {s t : ScopeStack} {key name : String} {read : String × String} {reads order : Entries}

/-- What is found under a key is among the texts that are to be forgotten. -/
def Forgets (reads : Entries) (s : ScopeStack) (key : String) : Prop :=
  ∃ text ∈ s.find? key, (key, text) ∈ reads

instance : DecidablePred (s.Forgets reads) := fun _ => inferInstanceAs (Decidable (∃ _ ∈ _, _))

/-- The order of the texts does not matter for what is to be forgotten. -/
theorem forgets_perm (h : order.Perm reads) (key : String) :
    s.Forgets order key ↔ s.Forgets reads key :=
  exists_congr fun _ => and_congr_right fun _ => h.mem_iff

theorem not_forgets_nil (key : String) : ¬ s.Forgets [] key := by
  simp [Forgets]

/-! ### One text -/

theorem forgets_singleton_iff :
    s.Forgets [read] key ↔ key = read.1 ∧ s.find? read.1 = some read.2 := by
  constructor
  · rintro ⟨text, hfound, hmem⟩
    obtain rfl := List.mem_singleton.1 hmem
    exact ⟨rfl, hfound⟩
  · rintro ⟨rfl, hfound⟩
    exact ⟨read.2, hfound, List.mem_singleton_self _⟩

theorem find?_forget (s : ScopeStack) (read : String × String) (key : String) :
    (Resolver.forget s read).find? key =
      if s.Forgets [read] key then some "" else s.find? key := by
  simp only [Resolver.forget, forgets_singleton_iff]
  by_cases hfound : s.find? read.1 = some read.2
  · by_cases hkey : key = read.1
    · simp [hfound, hkey, find?_set_self]
    · simp [hfound, hkey, find?_set_other]
  · simp [hfound]

theorem current_filled_forget (s : ScopeStack) (read : String × String) :
    (Resolver.forget s read).current.filled = s.current.filled.without (s.Forgets [read]) := by
  unfold Resolver.forget
  split
  next hfound =>
    rw [current_set, Scope.filled_set_empty]
    exact Scope.without_congr (fun key => by simp [forgets_singleton_iff, hfound]) _
  next hlost =>
    exact (Scope.without_of_forall_not (fun key => by simp [forgets_singleton_iff, hlost]) _).symm

/-! ### One text after the other -/

/-- Whether a key is emptied by the first text or by a later one is told from the bindings at the
beginning. -/
theorem forgets_cons_iff : s.Forgets (read :: reads) key ↔
    s.Forgets [read] key ∨ (Resolver.forget s read).Forgets reads key := by
  by_cases hread : s.Forgets [read] key
  · obtain ⟨text, hfound, hmem⟩ := hread
    have hcons : s.Forgets (read :: reads) key :=
      ⟨text, hfound, List.mem_cons.2 (.inl (List.mem_singleton.1 hmem))⟩
    exact iff_of_true hcons (.inl ⟨text, hfound, hmem⟩)
  · have hsame : (Resolver.forget s read).Forgets reads key ↔ s.Forgets reads key := by
      rw [Forgets, find?_forget, if_neg hread, Forgets]
    rw [hsame, or_iff_right hread]
    refine exists_congr fun text => and_congr_right fun hfound => List.mem_cons.trans ?_
    exact or_iff_right fun heq => hread ⟨text, hfound, List.mem_singleton.2 heq⟩

/-- The keys that are forgotten are empty afterwards, and the others have what they had. -/
theorem find?_foldl_forget (reads : Entries) (s : ScopeStack) (key : String) :
    (reads.foldl Resolver.forget s).find? key =
      if s.Forgets reads key then some "" else s.find? key := by
  induction reads generalizing s with
  | nil => rw [if_neg (not_forgets_nil key), List.foldl_nil]
  | cons read reads ih =>
      have hcons : s.Forgets (read :: reads) key ↔ _ := forgets_cons_iff
      rw [List.foldl_cons, ih, find?_forget, if_congr hcons rfl rfl]
      -- a key that is emptied stays so, whatever is visited later
      by_cases hread : s.Forgets [read] key
      · simp only [hread, true_or, if_true, ite_self]
      · simp only [hread, false_or, if_false]

theorem current_filled_foldl_forget (reads : Entries) (s : ScopeStack) :
    (reads.foldl Resolver.forget s).current.filled =
      s.current.filled.without (s.Forgets reads) := by
  induction reads generalizing s with
  | nil => exact (Scope.without_of_forall_not not_forgets_nil _).symm
  | cons read reads ih =>
      rw [List.foldl_cons, ih, current_filled_forget, Scope.without_without]
      exact Scope.without_congr (fun _ => forgets_cons_iff.symm) _

/-- What is not empty stays as it stands in every scope, but for the keys that are forgotten in the
innermost one. -/
theorem filled_foldl_forget (reads : Entries) (s : ScopeStack) :
    (reads.foldl Resolver.forget s).scopes.map Scope.filled =
      s.current.filled.without (s.Forgets reads) :: s.scopes.tail.map Scope.filled := by
  have htail : (reads.foldl Resolver.forget s).scopes.tail = s.scopes.tail :=
    Resolver.foldl_forget (P := fun store => store.scopes.tail = s.scopes.tail)
      (fun store key value h => (tail_scopes_set key value store).trans h) reads rfl
  rw [scopes_eq_current, List.map_cons, current_filled_foldl_forget, htail]

/-- A scan is told from what is found under the keys and from the entries that are not empty. -/
theorem scan_eq_of_filled (hfind : ∀ key, t.find? key = s.find? key)
    (hfilled : t.scopes.map Scope.filled = s.scopes.map Scope.filled) (name : String) :
    t.scan name = s.scan name := by
  have hentries : t.filled.entries = s.filled.entries := by
    rw [entries, entries, scopes_filled, scopes_filled, hfilled]
  have hfirst : t.firstOf? name = s.firstOf? name := by
    rw [← firstOf?_filled t, ← firstOf?_filled s, firstOf?_eq, firstOf?_eq, hentries]
  unfold scan
  rw [hfirst]
  simp only [attributeOf_congr fun key _ _ _ => hfind key]

end ScopeStack

namespace State

/-- The state after every text that was read is forgotten, when the texts are visited in some
order. -/
def forgetIn (order : Entries) (s : State) : State :=
  forgetLiveText { s with liveReads := order }

variable {s : State} {order order' : Entries}

theorem find?_forgetIn (h : order.Perm s.liveReads) (key : String) :
    (s.forgetIn order).store.find? key =
      if s.store.Forgets s.liveReads key then some "" else s.store.find? key := by
  rw [← if_congr (ScopeStack.forgets_perm h key) rfl rfl]
  exact ScopeStack.find?_foldl_forget order s.store key

theorem filled_forgetIn (h : order.Perm s.liveReads) :
    (s.forgetIn order).store.scopes.map Scope.filled =
      s.store.current.filled.without (s.store.Forgets s.liveReads) ::
        s.store.scopes.tail.map Scope.filled := by
  rw [← Scope.without_congr (ScopeStack.forgets_perm h)]
  exact ScopeStack.filled_foldl_forget order s.store

/-- **What was read is forgotten in any order.**  Whatever order the texts that are remembered as
read are visited in, every key is empty afterwards if what was found under it is one of them, and
has what it had otherwise; so any two orders leave the same under every key, the same scan of every
name, and in every scope the same entries that are not empty, in the same order.  Nothing is
remembered as read any more, and forgetting once more changes nothing. -/
theorem forgetting_in_any_order (h : order.Perm s.liveReads) (h' : order'.Perm s.liveReads) :
    (∀ key, (s.forgetIn order).store.find? key =
        if s.store.Forgets s.liveReads key then some "" else s.store.find? key) ∧
      (∀ key, (s.forgetIn order).store.find? key = (s.forgetIn order').store.find? key) ∧
      (∀ name, (s.forgetIn order).store.scan name = (s.forgetIn order').store.scan name) ∧
      (s.forgetIn order).store.scopes.map Scope.filled =
        (s.forgetIn order').store.scopes.map Scope.filled ∧
      (s.forgetIn order).liveReads = [] ∧
      ∀ again : Entries, again.Perm (s.forgetIn order).liveReads →
        (s.forgetIn order).forgetIn again = s.forgetIn order := by
  have hfind (key : String) :
      (s.forgetIn order).store.find? key = (s.forgetIn order').store.find? key :=
    (find?_forgetIn h key).trans (find?_forgetIn h' key).symm
  have hfilled := (filled_forgetIn h).trans (filled_forgetIn h').symm
  refine ⟨find?_forgetIn h, hfind, ScopeStack.scan_eq_of_filled hfind hfilled, hfilled, rfl,
    fun again hagain => ?_⟩
  -- nothing is left that could be visited a second time
  obtain rfl := List.perm_nil.1 hagain
  rfl

/-- Three notes were read, and the last of them was bound anew since. -/
def notesHeard : State where
  store := ScopeStack.empty.run [.push .page "page", .set "first/text" "draft",
    .set "second/text" "final", .set "third/text" "own"]
  liveReads := [("third/text", "other"), ("second/text", "final"), ("first/text", "draft")]
  world := Session.noteWorld
  readings := []

/-- Visited the other way round the notes leave another stack, in which the emptied entries have
changed places, and the same under every key. -/
theorem notes_forgotten_either_way :
    (notesHeard.liveReads.reverse.Perm notesHeard.liveReads ∧
      (notesHeard.forgetIn notesHeard.liveReads.reverse).store ≠
        (notesHeard.forgetIn notesHeard.liveReads).store) ∧
    (notesHeard.forgetIn notesHeard.liveReads.reverse).store.find? "first/text" = some "" ∧
    (notesHeard.forgetIn notesHeard.liveReads.reverse).store.find? "third/text" = some "own" ∧
    (notesHeard.forgetIn notesHeard.liveReads.reverse).store.scopes.map Scope.filled =
      (notesHeard.forgetIn notesHeard.liveReads).store.scopes.map Scope.filled := by
  have hreverse : notesHeard.liveReads.reverse.Perm notesHeard.liveReads := List.reverse_perm _
  obtain ⟨hfind, -, -, hfilled, -⟩ := forgetting_in_any_order hreverse (.refl _)
  exact ⟨⟨hreverse, by decide +kernel⟩, hfind "first/text", hfind "third/text", hfilled⟩

end State

end Bindery
