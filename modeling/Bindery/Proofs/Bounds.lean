import Bindery.Act

/-!
# Bindery — Proofs — Bounds

How far an action may change a state.  A pair of relations bounds it: `done` relates the state
before to the one after where the action gives a value, `failed` where it fails.  The two have to
fit together: actions that stay within `done` can follow each other, and a failure may come after
them (`Bounds`).

An action is *within* bounds when it is so from every state.  What `do` blocks are made of stays
within bounds when its parts do (`Act.Within.bind` and its companions), so a bound is checked at
the few actions that change something.
-/

namespace Bindery

variable {σ τ ε ε' α β : Type}

/-! ### What an action makes of a state -/

namespace Act

@[simp] theorem pure_run (x : α) (s : σ) : (pure x : Act σ ε α) s = (.ok x, s) := rfl

@[simp] theorem throw_run (e : ε) (s : σ) : (throw e : Act σ ε α) s = (.error e, s) := rfl

@[simp] theorem get_run (s : σ) : (get : Act σ ε σ) s = (.ok s, s) := rfl

@[simp] theorem modify_run (f : σ → σ) (s : σ) :
    (modify f : Act σ ε Unit) s = (.ok (), f s) := rfl

@[simp] theorem set_run (s t : σ) : (set t : Act σ ε Unit) s = (.ok (), t) := rfl

@[simp] theorem ofExcept_run (r : Except ε α) (s : σ) : (ofExcept r : Act σ ε α) s = (r, s) := rfl

theorem bind_run (a : Act σ ε α) (f : α → Act σ ε β) (s : σ) :
    (a >>= f) s = match a s with
      | (.ok x, t) => f x t
      | (.error e, t) => (.error e, t) := by
  show (ExceptT.bind a f) s = _
  simp only [ExceptT.bind, ExceptT.mk, bind, StateT.bind, ExceptT.bindCont]
  rcases a s with ⟨_ | _, _⟩ <;> rfl

/-- An action whose first part gives a value goes on with the second. -/
theorem bind_run_ok {a : Act σ ε α} {f : α → Act σ ε β} {s t : σ} {x : α}
    (h : a s = (.ok x, t)) : (a >>= f) s = f x t := by
  rw [bind_run, h]

/-- An action whose first part fails ends there. -/
theorem bind_run_error {a : Act σ ε α} {f : α → Act σ ε β} {s t : σ} {e : ε}
    (h : a s = (.error e, t)) : (a >>= f) s = (.error e, t) := by
  rw [bind_run, h]

theorem failingAs_run_ok {a : Act σ ε α} (f : ε → ε') {s t : σ} {x : α}
    (h : a s = (.ok x, t)) : a.failingAs f s = (.ok x, t) := by
  simp only [failingAs, h]

theorem failingAs_run_error {a : Act σ ε α} (f : ε → ε') {s t : σ} {e : ε}
    (h : a s = (.error e, t)) : a.failingAs f s = (.error (f e), t) := by
  simp only [failingAs, h]

theorem of_failingAs_ok {a : Act σ ε α} {f : ε → ε'} {s t : σ} {x : α}
    (h : a.failingAs f s = (.ok x, t)) : a s = (.ok x, t) := by
  rcases e : a s with ⟨g | y, u⟩
  · rw [failingAs_run_error f e] at h; cases h
  · rw [failingAs_run_ok f e] at h
    cases h
    rfl

/-- An action of two parts gives a value only if both do. -/
theorem of_bind_ok {a : Act σ ε α} {f : α → Act σ ε β} {s u : σ} {y : β}
    (h : (a >>= f) s = (.ok y, u)) : ∃ x t, a s = (.ok x, t) ∧ f x t = (.ok y, u) := by
  rw [bind_run] at h
  rcases e : a s with ⟨_ | x, t⟩
  · rw [e] at h; cases h
  · rw [e] at h; exact ⟨x, t, rfl, h⟩

/-- An action of two parts fails where one of them does. -/
theorem of_bind_error {a : Act σ ε α} {f : α → Act σ ε β} {s u : σ} {e : ε}
    (h : (a >>= f) s = (.error e, u)) :
    a s = (.error e, u) ∨ ∃ x t, a s = (.ok x, t) ∧ f x t = (.error e, u) := by
  rw [bind_run] at h
  rcases ha : a s with ⟨d | x, t⟩
  · rw [ha] at h; cases h; exact .inl rfl
  · rw [ha] at h; exact .inr ⟨x, t, rfl, h⟩

theorem of_failingAs_error {a : Act σ ε α} {f : ε → ε'} {s t : σ} {e : ε'}
    (h : a.failingAs f s = (.error e, t)) : ∃ d, e = f d ∧ a s = (.error d, t) := by
  rcases ha : a s with ⟨d | x, u⟩
  · rw [failingAs_run_error f ha] at h
    cases h
    exact ⟨d, rfl, rfl⟩
  · rw [failingAs_run_ok f ha] at h; cases h

end Act

/-! ### Bounds -/

/-- How far an action may change a state: `done` where it gives a value, `failed` where it
fails. -/
structure Bounds (σ : Type) where
  done : σ → σ → Prop
  failed : σ → σ → Prop
  refl : ∀ s, done s s
  trans : ∀ {s t u}, done s t → done t u → done s u
  after : ∀ {s t u}, done s t → failed t u → failed s u
  stop : ∀ s, failed s s

namespace Bounds

/-- The bounds that one relation gives to every end of an action. -/
def ofRelation (R : σ → σ → Prop) (refl : ∀ s, R s s)
    (trans : ∀ ⦃s t u⦄, R s t → R t u → R s u) : Bounds σ :=
  ⟨R, R, refl, @trans, @trans, refl⟩

/-- The bounds that keep a property. -/
def keeping (P : σ → Prop) : Bounds σ :=
  ofRelation (fun s t => P s → P t) (fun _ h => h) fun _ _ _ h₁ h₂ h => h₂ (h₁ h)

/-- The bounds that allow everything. -/
def any : Bounds σ :=
  ofRelation (fun _ _ => True) (fun _ => trivial) fun _ _ _ _ _ => trivial

/-- The bounds of a part of a state, whatever becomes of the rest. -/
def comap (B : Bounds τ) (part : σ → τ) : Bounds σ where
  done s t := B.done (part s) (part t)
  failed s t := B.failed (part s) (part t)
  refl s := B.refl (part s)
  trans := B.trans
  after := B.after
  stop s := B.stop (part s)

theorem failed_of_done {B : Bounds σ} {s t : σ} (h : B.done s t) : B.failed s t :=
  B.after h (B.stop t)

/-- The end of an action that began in `s` is within bounds. -/
inductive Allows (B : Bounds σ) (s : σ) : Except ε α × σ → Prop where
  | done {x : α} {t : σ} : B.done s t → Allows B s (.ok x, t)
  | failed {e : ε} {t : σ} : B.failed s t → Allows B s (.error e, t)

theorem Allows.of_ok {B : Bounds σ} {s t : σ} {x : α}
    (h : B.Allows s ((.ok x, t) : Except ε α × σ)) : B.done s t := by
  cases h
  assumption

theorem Allows.of_error {B : Bounds σ} {s t : σ} {e : ε}
    (h : B.Allows s ((.error e, t) : Except ε α × σ)) : B.failed s t := by
  cases h
  assumption

theorem Allows.after {B : Bounds σ} {s t : σ} {out : Except ε α × σ} (h : B.done s t)
    (hout : B.Allows t out) : B.Allows s out := by
  cases hout with
  | done hu => exact .done (B.trans h hu)
  | failed hu => exact .failed (B.after h hu)

end Bounds

namespace Act

/-- From every state, an action ends within bounds. -/
def Within (B : Bounds σ) (a : Act σ ε α) : Prop := ∀ s, B.Allows s (a s)

namespace Within

variable {B : Bounds σ}

theorem any (a : Act σ ε α) : Within Bounds.any a := by
  intro s
  rcases a s with ⟨_ | x, t⟩
  · exact .failed trivial
  · exact .done trivial

/-- To stay within one relation is to keep it, however the action ends. -/
theorem ofRelation_iff {R : σ → σ → Prop} {refl : ∀ s, R s s}
    {trans : ∀ ⦃s t u⦄, R s t → R t u → R s u} {a : Act σ ε α} :
    Within (.ofRelation R refl trans) a ↔ ∀ s, R s (a s).2 := by
  refine ⟨fun h s => ?_, fun h s => ?_⟩
  · have hs := h s
    rcases e : a s with ⟨_ | x, t⟩ <;> rw [e] at hs
    · exact hs.of_error
    · exact hs.of_ok
  · have hs := h s
    rcases e : a s with ⟨_ | x, t⟩ <;> rw [e] at hs
    · exact .failed hs
    · exact .done hs

/-- The relation that an action stays within holds however it ends. -/
theorem of_run {R : σ → σ → Prop} {refl : ∀ s, R s s}
    {trans : ∀ ⦃s t u⦄, R s t → R t u → R s u} {a : Act σ ε α}
    (ha : Within (.ofRelation R refl trans) a) {s t : σ} {r : Except ε α} (hrun : a s = (r, t)) :
    R s t := by
  have h := ofRelation_iff.1 ha s
  rwa [hrun] at h

/-- What an action keeps holds however it ends. -/
theorem keeps {P : σ → Prop} {a : Act σ ε α} (ha : Within (.keeping P) a) {s t : σ}
    {r : Except ε α} (h : P s) (hrun : a s = (r, t)) : P t := ha.of_run hrun h

theorem pure (x : α) : Within B (Pure.pure x : Act σ ε α) := fun s => .done (B.refl s)

theorem throw (e : ε) : Within B (MonadExcept.throw e : Act σ ε α) := fun s => .failed (B.stop s)

theorem get : Within B (MonadState.get : Act σ ε σ) := fun s => .done (B.refl s)

theorem modify {f : σ → σ} (h : ∀ s, B.done s (f s)) :
    Within B (modify f : Act σ ε Unit) := fun s => .done (h s)

theorem ofExcept (r : Except ε α) : Within B (Act.ofExcept r) := by
  intro s
  cases r with
  | error e => exact .failed (B.stop s)
  | ok x => exact .done (B.refl s)

theorem bind {a : Act σ ε α} {f : α → Act σ ε β} (ha : Within B a) (hf : ∀ x, Within B (f x)) :
    Within B (a >>= f) := by
  intro s
  have h := ha s
  rcases e : a s with ⟨_ | x, t⟩
  · rw [e] at h
    rw [bind_run_error e]
    exact .failed h.of_error
  · rw [e] at h
    rw [bind_run_ok e]
    exact .after h.of_ok (hf x t)

theorem failingAs {a : Act σ ε α} (f : ε → ε') (ha : Within B a) :
    Within B (a.failingAs f) := by
  intro s
  have h := ha s
  rcases e : a s with ⟨_ | x, t⟩
  · rw [e] at h
    rw [failingAs_run_error f e]
    exact .failed h.of_error
  · rw [e] at h
    rw [failingAs_run_ok f e]
    exact .done h.of_ok

theorem ite {c : Prop} [Decidable c] {a b : Act σ ε α} (ha : Within B a) (hb : Within B b) :
    Within B (if c then a else b) := by
  split
  · exact ha
  · exact hb

/-- An action in a part of a state is within bounds if what it does to the part is. -/
theorem inPart {C : Bounds τ} {part : σ → τ} {replace : τ → σ → σ} {a : Act τ ε α}
    (ha : Within C a) (hdone : ∀ s t, C.done (part s) t → B.done s (replace t s))
    (hfailed : ∀ s t, C.failed (part s) t → B.failed s (replace t s)) :
    Within B (a.inPart part replace) := by
  intro s
  have h := ha (part s)
  rcases e : a (part s) with ⟨_ | x, t⟩
  · rw [e] at h
    simp only [Act.inPart, e]
    exact .failed (hfailed s t h.of_error)
  · rw [e] at h
    simp only [Act.inPart, e]
    exact .done (hdone s t h.of_ok)

end Within

/-- From every state, an action ends within what a failure may do, even where it gives a value. -/
def Ends (B : Bounds σ) (a : Act σ ε α) : Prop := ∀ s, B.failed s (a s).2

namespace Ends

variable {B : Bounds σ}

theorem of_within {a : Act σ ε α} (ha : Within B a) : Ends B a := by
  intro s
  have h := ha s
  rcases e : a s with ⟨_ | x, t⟩
  · rw [e] at h
    exact h.of_error
  · rw [e] at h
    exact Bounds.failed_of_done h.of_ok

/-- The last part of an action may end as a failure may. -/
theorem bind {a : Act σ ε α} {f : α → Act σ ε β} (ha : Within B a) (hf : ∀ x, Ends B (f x)) :
    Ends B (a >>= f) := by
  intro s
  have h := ha s
  rcases e : a s with ⟨_ | x, t⟩
  · rw [e] at h
    rw [bind_run_error e]
    exact h.of_error
  · rw [e] at h
    rw [bind_run_ok e]
    exact B.after h.of_ok (hf x t)

theorem map {a : Act σ ε α} (ha : Ends B a) (f : α → β) :
    Ends B (a >>= fun x => Pure.pure (f x)) := by
  intro s
  have h := ha s
  rcases e : a s with ⟨_ | x, t⟩
  · rw [e] at h
    rwa [bind_run_error e]
  · rw [e] at h
    rwa [bind_run_ok e]

theorem ite {c : Prop} [Decidable c] {a b : Act σ ε α} (ha : Ends B a) (hb : Ends B b) :
    Ends B (if c then a else b) := by
  split
  · exact ha
  · exact hb

end Ends

end Act

end Bindery
