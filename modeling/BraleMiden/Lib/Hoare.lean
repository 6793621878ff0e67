import BraleMiden.Lib.Op

/-!
# Pre- and postconditions

`Triple P x Q E` says where the runs of `x` from states in `P` end: with a result and a state in `Q`, or with an error
and a state in `E`. `Succeeds P x` says that they do not end with an error.

* `Triple.bind`, `Succeeds.bind`: sequences; the second part starts in the postcondition of the first;
* `Triple.embed`, `Succeeds.embed`: a computation on a part of the state;
* `Triple.weaken`: the rule of consequence.
-/

namespace Effects

open Op

variable {σ τ ε ε' α β : Type}

/-- From a state in `P`, `x` ends with a result and a state in `Q`, or with an error and a state in `E`. -/
def Triple (P : σ → Prop) (x : Op σ ε α) (Q : α → σ → Prop) (E : ε → σ → Prop) : Prop :=
  ∀ s, P s → (∀ a s', run x s = (.ok a, s') → Q a s') ∧ ∀ e s', run x s = (.error e, s') → E e s'

/-- From a state in `P`, `x` ends with a result. -/
def Succeeds (P : σ → Prop) (x : Op σ ε α) : Prop := ∀ s, P s → ∃ a s', run x s = (.ok a, s')

section Rules

variable {P : σ → Prop} {x : Op σ ε α} {Q : α → σ → Prop} {E : ε → σ → Prop}

theorem Triple.of_ok (h : Triple P x Q E) {s s' : σ} {a : α} (hs : P s) (hrun : run x s = (.ok a, s')) : Q a s' :=
  (h s hs).1 a s' hrun

theorem Triple.of_error (h : Triple P x Q E) {s s' : σ} {e : ε} (hs : P s) (hrun : run x s = (.error e, s')) :
    E e s' :=
  (h s hs).2 e s' hrun

/-- **Rule of consequence.** -/
theorem Triple.weaken {P' : σ → Prop} {Q' : α → σ → Prop} {E' : ε → σ → Prop} (h : Triple P x Q E)
    (hP : ∀ s, P' s → P s) (hQ : ∀ a s, Q a s → Q' a s) (hE : ∀ e s, E e s → E' e s) : Triple P' x Q' E' := by
  intro s hs
  obtain ⟨hok, herror⟩ := h s (hP s hs)
  exact ⟨fun a s' hrun => hQ a s' (hok a s' hrun), fun e s' hrun => hE e s' (herror e s' hrun)⟩

theorem Triple.pure (a : α) (h : ∀ s, P s → Q a s) : Triple P (Pure.pure a : Op σ ε α) Q E := by
  intro s hs
  constructor
  · intro b s' hrun
    cases hrun
    exact h s hs
  · intro e s' hrun
    cases hrun

/-- **Sequence.** -/
theorem Triple.bind {f : α → Op σ ε β} {R : β → σ → Prop} (hx : Triple P x Q E) (hf : ∀ a, Triple (Q a) (f a) R E) :
    Triple P (x >>= f) R E := by
  intro s hs
  constructor
  · intro b t hrun
    obtain ⟨a, s', hfirst, hrest⟩ := run_bind_ok.1 hrun
    exact (hf a).of_ok (hx.of_ok hs hfirst) hrest
  · intro e t hrun
    rcases run_bind_error.1 hrun with hfirst | ⟨a, s', hfirst, hrest⟩
    · exact hx.of_error hs hfirst
    · exact (hf a).of_error (hx.of_ok hs hfirst) hrest

/-- A part of the state: what holds of the part before and after it. -/
theorem Triple.embed {get : τ → σ} {set : τ → σ → τ} {f : ε → ε'} {P' : τ → Prop} {Q' : α → τ → Prop}
    {E' : ε' → τ → Prop}
    (h : ∀ t, P' t → Triple (· = get t) x (fun a s => Q' a (set t s)) fun e s => E' (f e) (set t s)) :
    Triple P' (Op.embed get set f x) Q' E' := by
  intro t ht
  constructor
  · intro a t' hrun
    obtain ⟨s', hx, rfl⟩ := run_embed_ok.1 hrun
    exact (h t ht).of_ok rfl hx
  · intro e t' hrun
    obtain ⟨e₁, s', hx, rfl, rfl⟩ := run_embed_error.1 hrun
    exact (h t ht).of_error rfl hx

theorem Succeeds.bind {f : α → Op σ ε β} (hx : Succeeds P x) (ht : Triple P x Q E) (hf : ∀ a, Succeeds (Q a) (f a)) :
    Succeeds P (x >>= f) := by
  intro s hs
  obtain ⟨a, s', hfirst⟩ := hx s hs
  obtain ⟨b, s'', hrest⟩ := hf a s' (ht.of_ok hs hfirst)
  exact ⟨b, s'', run_bind_ok.2 ⟨a, s', hfirst, hrest⟩⟩

theorem Succeeds.embed {get : τ → σ} {set : τ → σ → τ} {f : ε → ε'} {P' : τ → Prop}
    (h : ∀ t, P' t → Succeeds (· = get t) x) : Succeeds P' (Op.embed get set f x) := by
  intro t ht
  obtain ⟨a, s', hrun⟩ := h t ht _ rfl
  exact ⟨a, _, run_embed_ok.2 ⟨s', hrun, rfl⟩⟩

end Rules

end Effects
