import BraleMiden.Lib.Op

/-!
# Runs in lockstep

`Lockstep R x y` relates computations on two state spaces: from states related by `R` they end alike, both well and with
one answer or both with an error, and the states they leave are related again.

* `Lockstep.bind`, `Lockstep.mapError`, `Lockstep.forBreak`: it passes to sequences, contexts and loops, so it is shown
  call by call.
-/

namespace Effects

open Op

variable {σ τ ε ε' α β ι : Type}

/-- Both end well with one answer, or both fail. -/
def EndAlike : Except ε α → Except ε' α → Prop
  | .ok a, .ok b => a = b
  | .error _, .error _ => True
  | _, _ => False

theorem EndAlike.refl (r : Except ε α) : EndAlike r r := by
  cases r with
  | ok a => exact Eq.refl a
  | error e => exact trivial

theorem EndAlike.ok_iff {r : Except ε α} {r' : Except ε' α} (h : EndAlike r r') (a : α) : r = .ok a ↔ r' = .ok a := by
  cases r with
  | ok b =>
    cases r' with
    | ok c =>
      obtain rfl : b = c := h
      simp
    | error e => exact h.elim
  | error e =>
    cases r' with
    | ok c => exact h.elim
    | error e' => simp

theorem EndAlike.of_error {e : ε} {r : Except ε' α} (h : EndAlike (.error e) r) : ∃ e', r = .error e' := by
  cases r with
  | ok a => exact h.elim
  | error e' => exact ⟨e', Eq.refl _⟩

/-- From related states, `x` and `y` end alike, in related states. -/
def Lockstep (R : σ → τ → Prop) (x : Op σ ε α) (y : Op τ ε' α) : Prop :=
  ∀ s t, R s t → EndAlike (run x s).1 (run y t).1 ∧ R (run x s).2 (run y t).2

section Rules

variable {R : σ → τ → Prop} {x : Op σ ε α} {y : Op τ ε' α}

theorem Lockstep.pure (a : α) : Lockstep R (Pure.pure a : Op σ ε α) (Pure.pure a : Op τ ε' α) :=
  fun _ _ hst => ⟨Eq.refl a, hst⟩

theorem Lockstep.throw (e : ε) (e' : ε') :
    Lockstep R (MonadExcept.throw e : Op σ ε α) (MonadExcept.throw e' : Op τ ε' α) :=
  fun _ _ hst => ⟨trivial, hst⟩

theorem Lockstep.ofExcept (r : Except ε α) : Lockstep R (Op.ofExcept r : Op σ ε α) (Op.ofExcept r : Op τ ε α) :=
  fun _ _ hst => ⟨EndAlike.refl r, hst⟩

theorem Lockstep.mapError (h : Lockstep R x y) (f : ε → ε) (g : ε' → ε') :
    Lockstep R (Op.mapError f x) (Op.mapError g y) := by
  intro s t hst
  obtain ⟨hend, hnext⟩ := h s t hst
  rw [run_mapError_state, run_mapError_state]
  refine ⟨?_, hnext⟩
  simp only [Op.mapError, run_mk]
  rcases hx : run x s with ⟨r, s'⟩
  rcases hy : run y t with ⟨r', t'⟩
  rw [hx, hy] at hend
  cases r with
  | ok a =>
    cases r' with
    | ok b => exact hend
    | error e' => exact hend.elim
  | error e =>
    cases r' with
    | ok b => exact hend.elim
    | error e' => exact trivial

/-- **Sequence.** The second parts only have to agree on one answer of the first. -/
theorem Lockstep.bind {f : α → Op σ ε β} {g : α → Op τ ε' β} (hx : Lockstep R x y)
    (hf : ∀ a, Lockstep R (f a) (g a)) : Lockstep R (x >>= f) (y >>= g) := by
  intro s t hst
  obtain ⟨hend, hnext⟩ := hx s t hst
  rw [run_bind, run_bind]
  rcases hx' : run x s with ⟨r, s'⟩
  rcases hy' : run y t with ⟨r', t'⟩
  rw [hx', hy'] at hend hnext
  cases r with
  | ok a =>
    cases r' with
    | ok b =>
      obtain rfl : a = b := hend
      exact hf a s' t' hnext
    | error e' => exact hend.elim
  | error e =>
    cases r' with
    | ok b => exact hend.elim
    | error e' => exact ⟨trivial, hnext⟩

/-- **Loop.** -/
theorem Lockstep.forBreak {body : ι → Op σ ε Bool} {body' : ι → Op τ ε' Bool}
    (hbody : ∀ i, Lockstep R (body i) (body' i)) (l : List ι) :
    Lockstep R (Effects.forBreak body l) (Effects.forBreak body' l) := by
  induction l with
  | nil => exact Lockstep.pure ()
  | cons i rest ih =>
    apply Lockstep.bind (hbody i)
    intro b
    cases b with
    | false => exact ih
    | true => exact Lockstep.pure ()

end Rules

end Effects
