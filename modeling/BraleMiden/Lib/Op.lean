import Mathlib.Order.Defs.Unbundled
import Mathlib.Data.List.Basic

/-!
# Fallible operations on a state

`Op σ ε α` is a computation over a state `σ` that ends with an `α` or an error `ε`; the state it leaves is kept in
both cases (nothing is rolled back).

* `run_bind_ok`, `run_bind_error`: how a sequence of two computations can end;
* `Keeps R x`: every run of `x` goes from a state to an `R`-related one, whether it succeeds or fails. For a preorder
  `R` it passes to sequences (`Keeps.bind`) and loops (`forBreak_keeps`), so it is shown call by call;
* `KeepsOnError R x`: the same for the failing runs only;
* `forBreak`: a `for` loop whose body may leave it. When the body of the last index never asks to go on, a loop that
  ends well was left by a `break` (`forBreak_ok`).
-/

namespace Effects

variable {σ τ ε ε' α β ι : Type}

theorem except_bind_ok {x : Except ε α} {f : α → Except ε β} {b : β} :
    x >>= f = .ok b ↔ ∃ a, x = .ok a ∧ f a = .ok b := by
  cases x with
  | error e =>
    constructor
    · nofun
    · rintro ⟨_, ⟨⟩, -⟩
  | ok a =>
    constructor
    · exact fun h => ⟨a, rfl, h⟩
    · rintro ⟨_, ⟨⟩, h⟩
      exact h

theorem except_mapError_ok {x : Except ε α} {f : ε → ε'} {a : α} : x.mapError f = .ok a ↔ x = .ok a := by
  cases x <;> simp [Except.mapError]

/-- A computation over a state `σ` with errors in `ε`. -/
abbrev Op (σ ε : Type) : Type → Type := ExceptT ε (StateM σ)

namespace Op

/-- The computation with the given runs. -/
def mk (f : σ → Except ε α × σ) : Op σ ε α := f

/-- The result of a run from `s` and the state it leaves. -/
def run (x : Op σ ε α) (s : σ) : Except ε α × σ := x s

/-- A computation that leaves the state alone. -/
def ofExcept (r : Except ε α) : Op σ ε α := mk fun s => (r, s)

/-- `x` with its error rewritten by `f`. -/
def mapError (f : ε → ε) (x : Op σ ε α) : Op σ ε α :=
  mk fun s => match run x s with
    | (.ok a, s') => (.ok a, s')
    | (.error e, s') => (.error (f e), s')

/-- `x` on a part of the state. -/
def zoom (get : τ → σ) (set : τ → σ → τ) (x : Op σ ε α) : Op τ ε α :=
  mk fun t => ((run x (get t)).1, set t (run x (get t)).2)

/-- `x` on a part of the state, with its errors as errors of another type. -/
def embed (get : τ → σ) (set : τ → σ → τ) (f : ε → ε') (x : Op σ ε α) : Op τ ε' α :=
  mk fun t => ((run x (get t)).1.mapError f, set t (run x (get t)).2)

/-- `x`, after somebody else has changed the state by `f`. -/
def after (f : σ → σ) (x : Op σ ε α) : Op σ ε α := mk fun s => run x (f s)

@[simp] theorem run_mk (f : σ → Except ε α × σ) (s : σ) : run (mk f) s = f s := rfl

@[simp] theorem run_after (f : σ → σ) (x : Op σ ε α) (s : σ) : run (after f x) s = run x (f s) := rfl

@[simp] theorem run_ofExcept (r : Except ε α) (s : σ) : run (ofExcept r) s = (r, s) := rfl

@[simp] theorem run_pure (a : α) (s : σ) : run (pure a : Op σ ε α) s = (.ok a, s) := rfl

@[simp] theorem run_throw (e : ε) (s : σ) : run (throw e : Op σ ε α) s = (.error e, s) := rfl

theorem run_zoom {get : τ → σ} {set : τ → σ → τ} {x : Op σ ε α} {t t' : τ} {r : Except ε α} :
    run (zoom get set x) t = (r, t') ↔ ∃ s', run x (get t) = (r, s') ∧ t' = set t s' := by
  rw [zoom, run_mk]
  constructor
  · intro h
    cases h
    exact ⟨_, rfl, rfl⟩
  · intro h
    obtain ⟨s', h, rfl⟩ := h
    rw [h]

theorem run_embed_ok {get : τ → σ} {set : τ → σ → τ} {f : ε → ε'} {x : Op σ ε α} {t t' : τ} {a : α} :
    run (embed get set f x) t = (.ok a, t') ↔ ∃ s', run x (get t) = (.ok a, s') ∧ t' = set t s' := by
  rw [embed, run_mk]
  cases run x (get t) with
  | mk r s' => cases r <;> simp [Except.mapError, eq_comm]

theorem run_embed_error {get : τ → σ} {set : τ → σ → τ} {f : ε → ε'} {x : Op σ ε α} {t t' : τ} {e : ε'} :
    run (embed get set f x) t = (.error e, t') ↔
      ∃ e₁ s', run x (get t) = (.error e₁, s') ∧ e = f e₁ ∧ t' = set t s' := by
  rw [embed, run_mk]
  cases run x (get t) with
  | mk r s' => cases r <;> simp [Except.mapError, eq_comm]

theorem run_bind (x : Op σ ε α) (f : α → Op σ ε β) (s : σ) :
    run (x >>= f) s = match run x s with
      | (.ok a, s') => run (f a) s'
      | (.error e, s') => (.error e, s') := by
  show (ExceptT.bind x f) s = match x s with
    | (.ok a, s') => f a s'
    | (.error e, s') => (.error e, s')
  simp only [ExceptT.bind, ExceptT.mk, bind, StateT.bind]
  rcases x s with ⟨r, s'⟩
  cases r <;> rfl

/-! ## How a sequence ends -/

theorem run_bind_of_ok {x : Op σ ε α} {a : α} {s s' : σ} (h : run x s = (.ok a, s')) (f : α → Op σ ε β) :
    run (x >>= f) s = run (f a) s' := by
  rw [run_bind, h]

theorem run_bind_of_error {x : Op σ ε α} {e : ε} {s s' : σ} (h : run x s = (.error e, s')) (f : α → Op σ ε β) :
    run (x >>= f) s = (.error e, s') := by
  rw [run_bind, h]

/-- A sequence succeeds when both parts do. -/
theorem run_bind_ok {x : Op σ ε α} {f : α → Op σ ε β} {s t : σ} {b : β} :
    run (x >>= f) s = (.ok b, t) ↔ ∃ a s', run x s = (.ok a, s') ∧ run (f a) s' = (.ok b, t) := by
  rw [run_bind]
  rcases run x s with ⟨_ | a, s'⟩
  · simp
  · simp only [Prod.mk.injEq, Except.ok.injEq]
    exact ⟨fun h => ⟨a, s', ⟨rfl, rfl⟩, h⟩, by rintro ⟨_, _, ⟨rfl, rfl⟩, h⟩; exact h⟩

/-- A sequence fails when its first part does, or when the second does after it. -/
theorem run_bind_error {x : Op σ ε α} {f : α → Op σ ε β} {s t : σ} {e : ε} :
    run (x >>= f) s = (.error e, t) ↔
      run x s = (.error e, t) ∨ ∃ a s', run x s = (.ok a, s') ∧ run (f a) s' = (.error e, t) := by
  rw [run_bind]
  rcases run x s with ⟨_ | a, s'⟩
  · simp
  · simp only [Prod.mk.injEq, reduceCtorEq, false_and, false_or, Except.ok.injEq]
    exact ⟨fun h => ⟨a, s', ⟨rfl, rfl⟩, h⟩, by rintro ⟨_, _, ⟨rfl, rfl⟩, h⟩; exact h⟩

@[simp] theorem run_mapError_ok {x : Op σ ε α} {f : ε → ε} {s t : σ} {a : α} :
    run (mapError f x) s = (.ok a, t) ↔ run x s = (.ok a, t) := by
  simp only [mapError, run_mk]
  rcases run x s with ⟨_ | _, _⟩ <;> simp

theorem run_mapError_error {x : Op σ ε α} {f : ε → ε} {s t : σ} {e : ε} :
    run (mapError f x) s = (.error e, t) ↔ ∃ e', run x s = (.error e', t) ∧ e = f e' := by
  simp only [mapError, run_mk]
  rcases run x s with ⟨_ | _, _⟩
  · simp only [Prod.mk.injEq, Except.error.injEq]
    exact ⟨fun h => ⟨_, ⟨rfl, h.2⟩, h.1.symm⟩, by rintro ⟨_, ⟨rfl, h⟩, rfl⟩; exact ⟨rfl, h⟩⟩
  · simp

@[simp] theorem run_mapError_state (x : Op σ ε α) (f : ε → ε) (s : σ) : (run (mapError f x) s).2 = (run x s).2 := by
  simp only [mapError, run_mk]
  rcases run x s with ⟨_ | _, _⟩ <;> rfl

end Op

open Op

/-! ## What every run keeps -/

section Keeps

variable {R : σ → σ → Prop}

/-- Every run of `x`, good or bad, leaves a state related to the one it started in. -/
def Keeps (R : σ → σ → Prop) (x : Op σ ε α) : Prop := ∀ s, R s (run x s).2

/-- A property passes from one state to the other. -/
def Passes (Q : σ → Prop) (s s' : σ) : Prop := Q s → Q s'

instance {Q : σ → Prop} : IsPreorder σ (Passes Q) where
  refl _ := id
  trans _ _ _ h h' := h' ∘ h

/-- The two states agree on `f`. -/
def Agrees {γ : Type} (f : σ → γ) (s s' : σ) : Prop := f s' = f s

instance {γ : Type} {f : σ → γ} : IsPreorder σ (Agrees f) where
  refl _ := rfl
  trans _ _ _ h h' := Eq.trans h' h

theorem Keeps.of_run {x : Op σ ε α} (h : Keeps R x) {s s' : σ} {r : Except ε α} (hr : run x s = (r, s')) : R s s' := by
  simpa [hr] using h s

theorem Keeps.pure [Std.Refl R] (a : α) : Keeps R (Pure.pure a : Op σ ε α) := fun s => refl s

theorem Keeps.throw [Std.Refl R] (e : ε) : Keeps R (MonadExcept.throw e : Op σ ε α) := fun s => refl s

theorem Keeps.ofExcept [Std.Refl R] (r : Except ε α) : Keeps R (Op.ofExcept r : Op σ ε α) := fun s => refl s

theorem Keeps.mapError {x : Op σ ε α} (h : Keeps R x) (f : ε → ε) : Keeps R (Op.mapError f x) := fun s => by
  rw [run_mapError_state]; exact h s

/-- What the others keep and `x` keeps, `x` keeps after them. -/
theorem Keeps.after [IsTrans σ R] {f : σ → σ} {x : Op σ ε α} (hf : ∀ s, R s (f s)) (hx : Keeps R x) :
    Keeps R (Op.after f x) := fun s => IsTrans.trans _ _ _ (hf s) (hx (f s))

theorem Keeps.mono {S : σ → σ → Prop} {x : Op σ ε α} (hx : Keeps R x) (h : ∀ s s', R s s' → S s s') : Keeps S x :=
  fun s => h _ _ (hx s)

/-- In a sequence the second part may rely on the result of the first. -/
theorem Keeps.bind_of_run [IsTrans σ R] {x : Op σ ε α} {f : α → Op σ ε β} (hx : Keeps R x)
    (hf : ∀ a s s', run x s = (.ok a, s') → Keeps R (f a)) : Keeps R (x >>= f) := fun s => by
  rw [run_bind]
  have h := hx s
  rcases hr : run x s with ⟨_ | a, s'⟩
  · rw [hr] at h; exact h
  · rw [hr] at h; exact IsTrans.trans _ _ _ h (hf a s s' hr s')

theorem Keeps.bind [IsTrans σ R] {x : Op σ ε α} {f : α → Op σ ε β} (hx : Keeps R x)
    (hf : ∀ a, Keeps R (f a)) : Keeps R (x >>= f) :=
  hx.bind_of_run fun a _ _ _ => hf a

/-! ### What failing runs keep -/

/-- Every failing run of `x` leaves a state related to the one it started in. -/
def KeepsOnError (R : σ → σ → Prop) (x : Op σ ε α) : Prop := ∀ s s' e, run x s = (.error e, s') → R s s'

theorem KeepsOnError.mapError {x : Op σ ε α} (h : KeepsOnError R x) (f : ε → ε) : KeepsOnError R (Op.mapError f x) :=
  fun _ _ _ hr => by
    obtain ⟨e, hx, -⟩ := run_mapError_error.1 hr
    exact h _ _ _ hx

/-- In a sequence that fails, the first part has kept `R` and the second has failed, or the first has failed. -/
theorem KeepsOnError.bind [IsTrans σ R] {x : Op σ ε α} {f : α → Op σ ε β} (hx : Keeps R x)
    (hf : ∀ a, KeepsOnError R (f a)) : KeepsOnError R (x >>= f) := fun _ _ _ hr => by
  rcases run_bind_error.1 hr with h | ⟨a, s', h, h'⟩
  · exact hx.of_run h
  · exact IsTrans.trans _ _ _ (hx.of_run h) (hf a _ _ _ h')

end Keeps

/-! ## Loops with a break -/

/-- `for i in l { if body(i) { break } }`: the body returns `true` to leave the loop. -/
def forBreak (body : ι → Op σ ε Bool) : List ι → Op σ ε Unit
  | [] => pure ()
  | i :: rest => do
    if ← body i then pure () else forBreak body rest

section Loops

variable {body : ι → Op σ ε Bool} {R : σ → σ → Prop} [IsPreorder σ R]

/-- **Loop rule**: what the body keeps, the loop keeps. -/
theorem forBreak_keeps (hbody : ∀ i, Keeps R (body i)) (l : List ι) : Keeps R (forBreak body l) := by
  induction l with
  | nil => exact Keeps.pure ()
  | cons i rest ih =>
    apply Keeps.bind (hbody i)
    intro b
    cases b with
    | false => exact ih
    | true => exact Keeps.pure ()

/-- A body that asks to leave at the first index ends the loop. -/
theorem forBreak_cons_true {i : ι} {s s' : σ} (h : run (body i) s = (.ok true, s')) (rest : List ι) :
    run (forBreak body (i :: rest)) s = (.ok (), s') := by
  rw [forBreak, run_bind_of_ok h]; rfl

/-- A body that asks to go on passes to the next index. -/
theorem forBreak_cons_false {i : ι} {s s' : σ} (h : run (body i) s = (.ok false, s')) (rest : List ι) :
    run (forBreak body (i :: rest)) s = run (forBreak body rest) s' := by
  rw [forBreak, run_bind_of_ok h]; rfl

/-- A body that fails ends the loop with its error. -/
theorem forBreak_cons_error {i : ι} {s s' : σ} {e : ε} (h : run (body i) s = (.error e, s')) (rest : List ι) :
    run (forBreak body (i :: rest)) s = (.error e, s') := by
  rw [forBreak, run_bind_of_error h]

/-- A loop that ends well was left by a `break`, if the body of the last index never asks to go on. -/
theorem forBreak_ok (hbody : ∀ i, Keeps R (body i)) {s s' : σ} {l : List ι} (hne : l ≠ [])
    (hlast : ∀ i ∈ l.getLast?, ∀ t t', run (body i) t ≠ (.ok false, t'))
    (h : run (forBreak body l) s = (.ok (), s')) : ∃ i ∈ l, ∃ t, R s t ∧ run (body i) t = (.ok true, s') := by
  induction l generalizing s with
  | nil => exact absurd rfl hne
  | cons i rest ih =>
    obtain ⟨b, t, hb, hrest⟩ := run_bind_ok.1 h
    cases b with
    | true =>
      simp only [↓reduceIte, run_pure, Prod.mk.injEq, true_and] at hrest
      subst hrest
      exact ⟨i, List.mem_cons_self, s, refl s, hb⟩
    | false =>
      simp only [Bool.false_eq_true, ↓reduceIte] at hrest
      cases rest with
      | nil => exact absurd hb (hlast i (by simp) s t)
      | cons j js =>
        obtain ⟨k, hk, u, hu, hrun⟩ := ih (List.cons_ne_nil j js) (fun m hm => hlast m (by simpa using hm)) hrest
        exact ⟨k, List.mem_cons_of_mem _ hk, u, IsTrans.trans _ _ _ ((hbody i).of_run hb) hu, hrun⟩

end Loops

end Effects
