import Bindery.Proofs.Outcome
import Bindery.Proofs.Rebound
import Bindery.Proofs.Reframing

/-!
# Bindery — Proofs — Caching

A text that was read from the page is given again, as it was, until something is done to the page or
to the page scope.  The text is bound in the page scope, in front of everything else
(`cached_of_read`).  What is bound there later comes in front of it, but does not come first for the
element where its key is of no kind for it (`TextFirst.sets`); and while the text stands, no scan of
the element finds nothing, so no lookup reads it anew (`admits_bound`).  Only its caller can put
another text in its place, and then that one is given (`live_text_stays_cached`).

What a turn sets is told from the page scope before and after it (`Entries.Sets`).  For an operation
it follows from the keys that it binds itself and the elements that it reads (`leaves_of_writes`).
-/

namespace Bindery

/-! ### Keys that an element gets its value by -/

namespace Key

/-- Whether a key is that of an element or one below it, other than those of its own text and of
what was selected in it. -/
def OffLimits (E key : String) : Prop :=
  key = E ∨ Text.startsWith key (E ++ "/") = true ∧ key ≠ text E ∧ ∀ facet, key ≠ selection E facet

theorem not_offLimits_of_ne {E key : String} (hne : key ≠ E)
    (hbelow : Text.startsWith key (E ++ "/") = false) : ¬ OffLimits E key := by
  rintro (h | ⟨h, -⟩)
  · exact hne h
  · rw [hbelow] at h
    cases h

theorem not_offLimits_text (E : String) : ¬ OffLimits E (text E) := by
  rintro (h | ⟨-, h, -⟩)
  · have hlength := congrArg List.length (congrArg String.toList h)
    rw [toList_text, List.length_append] at hlength
    have hpos : 0 < "/text".toList.length := by decide
    omega
  · exact h rfl

/-- Of the keys that are not off limits only that of its text gives an element a value. -/
theorem ofKey?_of_not_offLimits {E key : String} (h : ¬ OffLimits E key) :
    key = text E ∨ AttributeKind.ofKey? E key = none := by
  by_cases htext : key = text E
  · exact .inl htext
  refine .inr ?_
  unfold AttributeKind.ofKey?
  split
  next heq =>
    rw [Text.after?_eq_some_iff, List.append_nil] at heq
    exact absurd (.inl (String.toList_injective heq)) h
  next suffix heq =>
    rw [Text.after?_eq_some_iff] at heq
    have hstarts : Text.startsWith key (E ++ "/") = true := by
      unfold Text.startsWith
      have hafter : Text.after? (E ++ "/").toList key.toList = some suffix := by
        rw [Text.after?_eq_some_iff, heq]
        simp
      rw [hafter]
      rfl
    have hselection : ∃ facet, key = selection E facet := by
      by_contra hnone
      exact h (.inr ⟨hstarts, htext, fun facet hkey => hnone ⟨facet, hkey⟩⟩)
    obtain ⟨facet, rfl⟩ := hselection
    rw [← AttributeKind.ofKey?_append E suffix heq]
    exact AttributeKind.ofKey?_selection E facet
  next => rfl

end Key

namespace Entries

variable {free : String → Prop} {e e' e'' : Entries}

/-- Entries that come of others by setting keys that are free, one after the other. -/
inductive Sets (free : String → Prop) (e : Entries) : Entries → Prop where
  | refl : Sets free e e
  | put {e' : Entries} {key : String} (h : Sets free e e') (hkey : free key) (value : String) :
      Sets free e (e'.put key value)

theorem Sets.trans (h : Sets free e e') (h' : Sets free e' e'') : Sets free e e'' := by
  induction h' with
  | refl => exact h
  | put _ hkey value ih => exact .put ih hkey value

/-- A text of an element comes first among its entries, if there is one. -/
def TextFirst (E : String) (e : Entries) : Prop :=
  ∀ v, v ≠ "" → e.find? (Key.text E) = some v → e.firstOf? E = some (.text, v)

theorem TextFirst.put {E key : String} (h : TextFirst E e)
    (hkey : key = Key.text E ∨ AttributeKind.ofKey? E key = none) (value : String) :
    TextFirst E (e.put key value) := by
  intro v hv hfound
  rcases hkey with rfl | hnone
  -- the text itself is put in front
  · rw [find?_put_self] at hfound
    cases hfound
    exact firstOf?_cons_of_some hv (AttributeKind.ofKey?_text E)
  -- what is put in front is passed over, and so was what it took the place of
  · have hne : Key.text E ≠ key := by
      rintro rfl
      rw [AttributeKind.ofKey?_text] at hnone
      cases hnone
    rw [find?_put_other hne] at hfound
    rw [Entries.put, firstOf?_cons_of_none (.inr hnone), firstOf?_filter, h v hv hfound]
    intro p _ hp
    have heq : p.1 = key := by simpa using hp
    exact .inr (heq ▸ hnone)

/-- A text of an element comes first however keys are set that are not off limits. -/
theorem TextFirst.sets {E : String} (h : TextFirst E e)
    (hsets : Sets (fun key => ¬ Key.OffLimits E key) e e') : TextFirst E e' := by
  induction hsets with
  | refl => exact h
  | put _ hkey value ih => exact ih.put (Key.ofKey?_of_not_offLimits hkey) value

end Entries

/-! ### Turns that leave a text that was read -/

namespace Operation

/-- Whether an operation does nothing to an element that may change the page, and keeps the page
scope. -/
def LeavesPage : Operation → Prop
  | .beginFeature _ | .endFeature | .resetPage | .navigate _ => False
  | op => op.deed? = none

/-- The text that an operation binds for an element on the page. -/
def boundText? (E : String) : Operation → Option String
  | .bind key text => if key = Key.text E then some text else none
  | .bindIn kind key text => if kind = .page ∧ key = Key.text E then some text else none
  | .bindAndWait element action text =>
    if Key.action element action = Key.text E then some text else none
  | _ => none

/-- The keys that an operation binds in the page scope on top, those of its lookups aside. -/
def pageKeys : Operation → List String
  | .bindIn kind key _ => if kind = .page then [key] else []
  | op => op.keys

variable {op : Operation} {E : String}

theorem deed?_of_leavesPage (h : op.LeavesPage) : op.deed? = none := by
  cases op <;> first | rfl | cases h

/-- Only one operation that leaves the page scope may bind in another one. -/
theorem bindIn_of_leavesPage (h : op.LeavesPage) (hop : op.Rescopes) :
    ∃ kind key text, op = .bindIn kind key text := by
  cases op <;> first | exact ⟨_, _, _, rfl⟩ | exact False.elim hop | exact False.elim h

theorem pageKeys_eq_keys (hop : ¬ op.Rescopes) : op.pageKeys = op.keys := by
  cases op <;> first | rfl | exact absurd trivial hop

theorem not_binds_of_boundText? (hop : ¬ op.Rescopes) (h : op.boundText? E = none) :
    ¬ op.Binds (Key.text E) := by
  cases op with
  | bind key text => exact fun hkey => by simp [boundText?, show key = Key.text E from hkey] at h
  | bindAndWait element action text =>
      exact fun hkey => by
        simp [boundText?, show Key.action element action = Key.text E from hkey] at h
  | bindIn => exact absurd trivial hop
  | _ => exact id

end Operation

namespace Session

variable {x : Session} {E v : String} {s : State}

/-- A turn that leaves a text of an element: nothing is done to the page nor to the page scope, and
of the keys that are off limits for the element none is set there. -/
def Turn.Leaves (x : Session) (E : String) (s : State) : Turn → Prop
  | .perform op => op.LeavesPage ∧ Entries.Sets (fun key => ¬ Key.OffLimits E key)
      s.store.current.entries (x.perform op s).2.store.current.entries
  | .outside _ => True

/-- The text that a turn binds for an element on the page. -/
def Turn.boundText? (E : String) : Turn → Option String
  | .perform op => op.boundText? E
  | .outside _ => none

/-- The text that the caller bound for an element last, or another one if there is none. -/
def lastText (E v : String) (turns : List Turn) : String :=
  turns.foldl (fun text turn => (turn.boundText? E).getD text) v

/-! ### The text in the page scope -/

/-- The page scope on top binds a text for an element, unless it is empty, and the element has it
for its value. -/
structure Cached (E v : String) (s : State) : Prop where
  page : s.store.current.kind = .page
  bound : v ≠ "" → s.store.current.entries.find? (Key.text E) = some v
  first : s.store.current.entries.TextFirst E

/-- Lookups keep a text that is bound on the page, as no scan of its element finds nothing. -/
theorem admits_bound (x : Session) (E : String) (hv : v ≠ "") :
    x.Admits (fun key => key ≠ Key.text E) (fun _ => False)
      (.keeping fun s => s.store.current.entries.find? (Key.text E) = some v) where
  lookups := by
    refine Resolver.permits_of_world (fun _ _ h => h)
      (fun s url h => ScopeStack.current_find?_set_other (Key.currentUrl_ne_text E) url h) ?_
    intro room name text l s t w hscan hl _ hdone h
    refine ScopeStack.current_find?_set_other (fun hkey => hv ?_) text (hdone h)
    have hname : name = E :=
      (Resolver.element_of_locatorAt hl).symm.trans (Key.text_injective hkey)
    have hmem : (Key.text E, v) ∈ s.store.entries :=
      ScopeStack.mem_entries_iff.2 (.inl (Entries.mem_of_find? h))
    exact ScopeStack.text_empty_of_scan (hname ▸ hscan) hmem rfl
  world _ _ h := h
  set _ _ value hkey h := ScopeStack.current_find?_set_other hkey value h
  outdate _ _ h := h.elim

theorem page_take (h : s.store.current.kind = .page) (turn : Turn) :
    (x.take s turn).store.current.kind = .page := by
  obtain ⟨below, hbelow⟩ := exists_onPage_iff.2 h
  exact exists_onPage_iff.1 ⟨_, onPage_take hbelow turn⟩

/-- Binding in a scope of some kind binds in the page scope on top if it is of that kind. -/
theorem current_bindIn (hpage : s.store.current.kind = .page) (kind : ScopeKind)
    (key text : String) : (x.perform (.bindIn kind key text) s).2.store.current =
      if kind = .page then s.store.current.set key text else s.store.current := by
  obtain ⟨below, hbelow⟩ := ScopeStack.exists_under (s := s.store) (by rw [hpage]; decide)
  show (quietly (rebinding fun s => s.setIn kind key text) s).2.store.current = _
  rw [quietly_run, rebinding_run]
  have hset : s.store.setIn kind key text = (below.under s.store.current).setIn kind key text :=
    congrArg (ScopeStack.setIn kind key text) hbelow
  rw [hset, ScopeStack.setIn, ScopeStack.changeIn_under, hpage]
  by_cases hkind : kind = .page
  · rw [if_pos hkind.symm, if_pos hkind]
    rfl
  · rw [if_neg (Ne.symm hkind), if_neg hkind]
    cases below.changeIn kind (Scope.set key text) <;> rfl

/-- A text that the caller binds on the page stands there. -/
theorem find?_of_boundText? (hlive : x.Live) (hpage : s.store.current.kind = .page)
    {op : Operation} {text : String} (h : op.boundText? E = some text) :
    (x.perform op s).2.store.current.entries.find? (Key.text E) = some text := by
  have hset {store : ScopeStack} (hstore : store = s.store.set (Key.text E) text) :
      store.current.entries.find? (Key.text E) = some text := by
    rw [hstore, ScopeStack.current_set]
    exact Entries.find?_put_self _ _ _
  cases op with
  | bind key value =>
      obtain ⟨rfl, rfl⟩ : key = Key.text E ∧ value = text := by
        simpa [Operation.boundText?] using h
      exact hset rfl
  | bindIn kind key value =>
      obtain ⟨⟨rfl, rfl⟩, rfl⟩ : (kind = .page ∧ key = Key.text E) ∧ value = text := by
        simpa [Operation.boundText?] using h
      rw [current_bindIn hpage, if_pos rfl]
      exact Entries.find?_put_self _ _ _
  | bindAndWait element action value =>
      obtain ⟨hkey, rfl⟩ : Key.action element action = Key.text E ∧ value = text := by
        simpa [Operation.boundText?] using h
      refine hset ?_
      have hstore := (bindAndWait_outcome hlive.1 element action value s).2
      rw [hkey] at hstore
      show (quietly (x.bindAndWait element action value) s).2.store = _
      rw [quietly_run]
      exact hstore
  | _ => cases h

theorem cached_take (hlive : x.Live) (h : Cached E v s) {turn : Turn} (hturn : turn.Leaves x E s) :
    Cached E ((turn.boundText? E).getD v) (x.take s turn) := by
  cases turn with
  | outside change => exact ⟨h.page, h.bound, h.first⟩
  | perform op =>
      obtain ⟨hleaves, hsets⟩ := hturn
      refine ⟨page_take h.page (.perform op), fun hne => ?_, h.first.sets hsets⟩
      cases hbound : op.boundText? E with
      | some text =>
          have hv : ((Turn.perform op).boundText? E).getD v = text := by
            rw [Turn.boundText?, hbound]
            rfl
          rw [hv]
          exact find?_of_boundText? hlive h.page hbound
      | none =>
          have hv : ((Turn.perform op).boundText? E).getD v = v := by
            rw [Turn.boundText?, hbound]
            rfl
          rw [hv] at hne ⊢
          by_cases hop : op.Rescopes
          · obtain ⟨kind, key, text, rfl⟩ := Operation.bindIn_of_leavesPage hleaves hop
            show (x.perform (.bindIn kind key text) s).2.store.current.entries.find? _ = _
            rw [current_bindIn h.page]
            split
            next hkind =>
              have hkey : Key.text E ≠ key := fun hkey => by
                simp [Operation.boundText?, hkind, hkey.symm] at hbound
              exact (Entries.find?_put_other hkey _ _).trans (h.bound hne)
            next => exact h.bound hne
          -- all else leaves what is bound, and finds it whenever it looks the element up
          · have hkept := (admits_bound x E hne).within_perform hop
              (Operation.keys_ne_text (Operation.not_binds_of_boundText? hop hbound))
              fun d hd => by
                rw [Operation.deed?_of_leavesPage hleaves] at hd
                cases hd
            exact hkept.keeps (h.bound hne) rfl

theorem forall_leaves_cons {turn : Turn} {turns : List Turn} :
    (∀ before next later, turn :: turns = before ++ next :: later →
      next.Leaves x E (x.after before s)) ↔
    turn.Leaves x E s ∧ ∀ before next later, turns = before ++ next :: later →
      next.Leaves x E (x.after before (x.take s turn)) := by
  refine ⟨fun h => ⟨h [] turn turns rfl, fun before next later hsplit => ?_⟩, ?_⟩
  · exact h (turn :: before) next later (by rw [hsplit]; rfl)
  · rintro ⟨hturn, hturns⟩ before next later hsplit
    cases before with
    | nil =>
        obtain ⟨rfl, -⟩ := List.cons.inj hsplit
        exact hturn
    | cons first before =>
        obtain ⟨rfl, htail⟩ := List.cons.inj hsplit
        exact hturns before next later htail

theorem cached_after (hlive : x.Live) (h : Cached E v s) {turns : List Turn}
    (hturns : ∀ before turn later, turns = before ++ turn :: later →
      turn.Leaves x E (x.after before s)) :
    Cached E (lastText E v turns) (x.after turns s) := by
  induction turns generalizing v s with
  | nil => exact h
  | cons turn turns ih =>
      obtain ⟨hturn, hturns⟩ := forall_leaves_cons.1 hturns
      exact ih (cached_take hlive h hturn) hturns

/-- An element has the text for its value that stands for it in the page scope, and looking it up
changes nothing. -/
theorem value_of_cached (h : Cached E v s) (hv : v ≠ "") :
    x.perform (.value E) s = (.ok (.text v), s) := by
  have hfirst : s.store.firstOf? E = some (.text, v) := by
    rw [ScopeStack.firstOf?_eq_or, h.first v hv (h.bound hv)]
    rfl
  exact perform_value_of_literal (ScopeStack.scan_of_isLiteral rfl hfirst)

/-- A text that is read from the page is bound there in front of everything else. -/
theorem cached_of_read (hlive : x.Live) {t : State} (hpage : t.store.current.kind = .page)
    (hscan : s.store.scan E = .ok none) (hdefault : x.resolver.defaults E = none)
    (hread : x.perform (.value E) s = (.ok (.text v), t)) : Cached E v t := by
  obtain ⟨text, t', hvalue, hanswer⟩ := Act.of_bind_ok hread
  cases hanswer
  have hvalue := Act.of_failingAs_ok hvalue
  rw [Resolver.value, Resolver.valueAt_succ, Resolver.valueStep_of_unbound hscan,
    Resolver.unboundValue, hdefault] at hvalue
  obtain ⟨l, s₁, hl, hvalue⟩ := Act.of_bind_ok hvalue
  have helement := Resolver.element_of_locatorAt (Act.of_failingAs_ok hl)
  rw [Resolver.liveText_run, if_neg (by simp [hlive.2])] at hvalue
  rcases hw : PageReader.text x.resolver.interactor l s₁.world with ⟨f | heard, w⟩
  · rw [hw] at hvalue
    cases hvalue
  · rw [hw] at hvalue
    cases hvalue
    -- whatever the lookup of the locator bound on the way stands behind the text
    have hentries : (s₁.hearing l w v).store.current.entries =
        s₁.store.current.entries.put (Key.text E) v := by
      rw [State.hearing, ScopeStack.current_set, helement]
      rfl
    refine ⟨hpage, fun _ => ?_, fun u hu hfound => ?_⟩
    · rw [hentries]
      exact Entries.find?_put_self _ _ _
    · rw [hentries] at hfound ⊢
      rw [Entries.find?_put_self] at hfound
      cases hfound
      exact Entries.firstOf?_cons_of_some hu (AttributeKind.ofKey?_text E)

/-! ### Operations that write nothing off limits -/

/-- The elements whose texts were read from the page between two states. -/
def elementsRead (s t : State) : List String :=
  (t.readings.take (t.readings.length - s.readings.length)).map fun ρ => ρ.locator.element

/-- If the texts that were read meanwhile are those of free keys, the page scope comes of what it
was by setting free keys. -/
def Writes (free : String → Prop) (s t : State) : Prop :=
  ∃ new, t.readings = new ++ s.readings ∧
    ((∀ ρ ∈ new, free (Key.text ρ.locator.element)) →
      Entries.Sets free s.store.current.entries t.store.current.entries)

namespace Writes

variable {free : String → Prop} {t u : State}

theorem refl (s : State) : Writes free s s := ⟨[], rfl, fun _ => .refl⟩

theorem trans (h₁ : Writes free s t) (h₂ : Writes free t u) : Writes free s u := by
  obtain ⟨new₁, e₁, sets₁⟩ := h₁
  obtain ⟨new₂, e₂, sets₂⟩ := h₂
  refine ⟨new₂ ++ new₁, by rw [e₂, e₁, List.append_assoc], fun hnew => ?_⟩
  obtain ⟨hnew₂, hnew₁⟩ := List.forall_mem_append.1 hnew
  exact (sets₁ hnew₁).trans (sets₂ hnew₂)

theorem set {key : String} (hkey : free key) (value : String) (s : State) :
    Writes free s { s with store := s.store.set key value } := by
  refine ⟨[], rfl, fun _ => ?_⟩
  show Entries.Sets free _ (s.store.set key value).current.entries
  rw [ScopeStack.current_set]
  exact .put .refl hkey value

theorem hearing (h : Writes free s t) (l : Locator) (w : World) (text : String) :
    Writes free s (t.hearing l w text) := by
  obtain ⟨new, e, sets⟩ := h
  refine ⟨⟨l, t.store, t.world, text⟩ :: new, by simp [State.hearing, e], fun hnew => ?_⟩
  obtain ⟨hl, hnew⟩ := List.forall_mem_cons.1 hnew
  rw [State.hearing, ScopeStack.current_set]
  exact .put (sets hnew) hl text

end Writes

theorem admits_writes (x : Session) {free : String → Prop} (hurl : free Key.currentUrl) :
    x.Admits free (fun _ => False)
      (.ofRelation (Writes free) Writes.refl fun _ _ _ => Writes.trans) where
  lookups := Resolver.permits_of_world (fun s _ => Writes.refl s)
    (fun s url => Writes.set hurl url s) fun _ _ _ h => h.hearing _ _ _
  world s _ := Writes.refl s
  set s _ value hkey := Writes.set hkey value s
  outdate _ _ h := h.elim

/-- An operation leaves a text if nothing is off limits that it binds itself or reads from the
page. -/
theorem leaves_of_writes (hpage : s.store.current.kind = .page) {op : Operation}
    (hleaves : op.LeavesPage) (hurl : ¬ Key.OffLimits E Key.currentUrl)
    (hkeys : ∀ key ∈ op.pageKeys, ¬ Key.OffLimits E key)
    (hread : ∀ name ∈ elementsRead s (x.perform op s).2, ¬ Key.OffLimits E (Key.text name)) :
    (Turn.perform op).Leaves x E s := by
  refine ⟨hleaves, ?_⟩
  by_cases hop : op.Rescopes
  · obtain ⟨kind, key, text, rfl⟩ := Operation.bindIn_of_leavesPage hleaves hop
    rw [current_bindIn hpage]
    split
    next hkind => exact .put .refl (hkeys key (by simp [Operation.pageKeys, hkind])) text
    next => exact .refl
  · rw [Operation.pageKeys_eq_keys hop] at hkeys
    have hwrites := Act.Within.ofRelation_iff.1 ((admits_writes x hurl).within_perform hop hkeys
      fun d hd => by rw [Operation.deed?_of_leavesPage hleaves] at hd; cases hd) s
    obtain ⟨new, e, sets⟩ := hwrites
    refine sets fun ρ hρ => hread _ (List.mem_map_of_mem ?_)
    rw [e, List.length_append, Nat.add_sub_cancel, List.take_left]
    exact hρ

/-! ### The text is given again -/

/-- **A text that was read stays cached.**  Take a session that is no dry run, after any run of it,
and an element without a default for which nothing is bound, so that its value is read from the
page.  After any turns that do nothing to the page or to the page scope, and set no key there that
is off limits for the element, its value is what was read, or the text that the caller bound for
it last meanwhile, unless that is empty.  It is given without any change, whoever drives the browser
and answers queries by then, so neither is asked. -/
theorem live_text_stays_cached (x : Session) (hlive : x.Live) (store : ScopeStack) (w : World)
    (past : List Turn) {E v : String} {t : State}
    (hscan : (x.after past (begin store w)).store.scan E = .ok none)
    (hdefault : x.resolver.defaults E = none)
    (hread : x.perform (.value E) (x.after past (begin store w)) = (.ok (.text v), t))
    {turns : List Turn}
    (hturns : ∀ before turn later, turns = before ++ turn :: later →
      turn.Leaves x E (x.after before t))
    (hlast : lastText E v turns ≠ "") (y : Session) :
    y.perform (.value E) (x.after turns t) =
      (.ok (.text (lastText E v turns)), x.after turns t) := by
  obtain ⟨below, hbelow⟩ := exists_onPage_begin store w
  have hpage : (x.after past (begin store w)).store.current.kind = .page :=
    exists_onPage_iff.1 ⟨_, onPage_after hbelow past⟩
  have ht : t = x.take (x.after past (begin store w)) (.perform (.value E)) :=
    (congrArg Prod.snd hread).symm
  have hcached : Cached E v t :=
    cached_of_read hlive (ht ▸ page_take hpage (.perform (.value E))) hscan hdefault hread
  exact value_of_cached (cached_after hlive hcached hturns) hlast

/-- A note is given its place on the page. -/
def placeNote : List Turn :=
  [.perform (.bind "note/locator" "id"), .perform (.bind "note/locator/id" "n")]

/-- The state after the note was read. -/
def noteHeard : State :=
  (standard.perform (.value "note") (standard.after placeNote (begin .empty noteWorld))).2

/-- What an element is seen to have for its value is said. -/
theorem perform_value (h : (x.resolver.value E s).1.toOption = some v) :
    (x.perform (.value E) s).1 = .ok (.text v) := by
  show (saying (x.resolver.value E) s).1 = _
  rw [saying_run]
  cases hvalue : (x.resolver.value E s).1 with
  | error e =>
      rw [hvalue] at h
      cases h
  | ok text =>
      rw [hvalue] at h
      cases h
      rfl

theorem read_note : standard.perform (.value "note")
    (standard.after placeNote (begin .empty noteWorld)) = (.ok (.text "draft"), noteHeard) :=
  Prod.ext (perform_value (by decide +kernel)) rfl

/-- The note changes by itself, something else is bound, and a text with both in it is looked
up. -/
def aroundNote : List Turn :=
  [.outside fun w => { w with browser := w.browser.apply (.setText "el-1" "final") },
    .perform (.bind "title" "Shop"), .perform (.interpolate "$[title]: $[note]")]

/-- The note keeps its text, though it has another one on the page. -/
theorem note_stays_draft :
    (standard.after placeNote (begin .empty noteWorld)).store.scan "note" = .ok none ∧
      standard.perform (.value "note") (standard.after placeNote (begin .empty noteWorld)) =
        (.ok (.text "draft"), noteHeard) ∧
      standard.perform (.value "note") (standard.after aroundNote noteHeard) =
        (.ok (.text "draft"), standard.after aroundNote noteHeard) := by
  have hscan : (standard.after placeNote (begin .empty noteWorld)).store.scan "note" = .ok none :=
    ScopeStack.scan_eq_none_iff.2 (by decide +kernel)
  refine ⟨hscan, read_note, live_text_stays_cached standard (live_ofSettings rfl _ _ _) .empty
    noteWorld placeNote hscan rfl read_note ?_ (by decide) standard⟩
  have hurl : ¬ Key.OffLimits "note" Key.currentUrl :=
    Key.not_offLimits_of_ne (by decide) (by decide +kernel)
  have hbound : (Turn.perform (.bind "title" "Shop")).Leaves standard "note"
      (standard.after (aroundNote.take 1) noteHeard) := by
    refine leaves_of_writes (by decide +kernel) rfl hurl ?_ ?_
    · show ∀ key ∈ ["title"], ¬ Key.OffLimits "note" key
      exact List.forall_mem_singleton.2 (Key.not_offLimits_of_ne (by decide) (by decide +kernel))
    · rw [show elementsRead _ _ = [] by decide +kernel]
      exact List.forall_mem_nil _
  have hlooked : (Turn.perform (.interpolate "$[title]: $[note]")).Leaves standard "note"
      (standard.after (aroundNote.take 2) noteHeard) := by
    refine leaves_of_writes (by decide +kernel) rfl hurl (List.forall_mem_nil _) ?_
    rw [show elementsRead _ _ = [] by decide +kernel]
    exact List.forall_mem_nil _
  refine forall_leaves_cons.2 ⟨trivial, forall_leaves_cons.2 ⟨hbound, forall_leaves_cons.2
    ⟨hlooked, fun before next later hsplit => ?_⟩⟩⟩
  simp at hsplit

/-- What the caller binds for the note is its text from then on, not what was read. -/
theorem bound_text_is_not_what_was_read :
    standard.Live ∧
      (standard.after placeNote (begin .empty noteWorld)).store.scan "note" = .ok none ∧
      standard.perform (.value "note") (standard.after placeNote (begin .empty noteWorld)) =
        (.ok (.text "draft"), noteHeard) ∧
      (Turn.perform (.bind (Key.text "note") "final")).Leaves standard "note" noteHeard ∧
      (standard.perform (.value "note")
        (standard.take noteHeard (.perform (.bind (Key.text "note") "final")))).1 =
          .ok (.text "final") ∧ "final" ≠ "draft" := by
  have hleaves : (Turn.perform (.bind (Key.text "note") "final")).Leaves standard "note"
      noteHeard := by
    refine leaves_of_writes (by decide +kernel) rfl
      (Key.not_offLimits_of_ne (by decide) (by decide +kernel)) ?_ ?_
    · show ∀ key ∈ [Key.text "note"], ¬ Key.OffLimits "note" key
      exact List.forall_mem_singleton.2 (Key.not_offLimits_text "note")
    · rw [show elementsRead _ _ = [] by decide +kernel]
      exact List.forall_mem_nil _
  exact ⟨live_ofSettings rfl _ _ _, ScopeStack.scan_eq_none_iff.2 (by decide +kernel), read_note,
    hleaves, perform_value (by decide +kernel), by decide⟩

end Session

end Bindery
