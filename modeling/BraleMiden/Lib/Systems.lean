import Mathlib.Order.Defs.Unbundled
import Mathlib.Data.List.Basic

/-!
# Labelled transition systems

A `System σ ℓ` has initial states and labelled steps; a `Run` is a finite sequence of steps.

* `Run.keeps`: what every step keeps, every run keeps; `Reachable.invariant` is the same from the initial states;
* `Run.append`: runs compose, so `Leads`, that some run leads from one state to the other, is a preorder;
* `System.only`: the runs whose labels are all of some kind;
* `Simulation`: every step of the concrete system is matched by a step of the abstract one with the same label, and the
  states stay related. `Simulation.run` carries this to whole runs;
* `Explained`: a step of the concrete system is matched by a run of the abstract one, with labels that fit its own.
-/

namespace Systems

/-- A labelled transition system. -/
structure System (σ ℓ : Type) where
  init : σ → Prop
  step : σ → ℓ → σ → Prop

variable {σ τ ℓ : Type}

/-- Finitely many steps, with their labels. -/
inductive Run (M : System σ ℓ) : σ → List ℓ → σ → Prop
  | nil (s : σ) : Run M s [] s
  | cons {s t u : σ} {l : ℓ} {ls : List ℓ} : M.step s l t → Run M t ls u → Run M s (l :: ls) u

/-- A state that some run from an initial state leads to. -/
def Reachable (M : System σ ℓ) (s : σ) : Prop := ∃ s₀ ls, M.init s₀ ∧ Run M s₀ ls s

section Runs

variable {M : System σ ℓ}

/-- **Run rule**: what every step keeps, every run keeps. -/
theorem Run.keeps {P : σ → Prop} (hstep : ∀ {s l t}, P s → M.step s l t → P t) {s t : σ} {ls : List ℓ}
    (h : Run M s ls t) : P s → P t := by
  induction h with
  | nil s => exact id
  | cons hs _ ih => exact fun hp => ih (hstep hp hs)

/-- **Invariant rule**: what holds initially and is kept by every step holds of every reachable state. -/
theorem Reachable.invariant {P : σ → Prop} (hinit : ∀ {s}, M.init s → P s)
    (hstep : ∀ {s l t}, P s → M.step s l t → P t) {s : σ} (h : Reachable M s) : P s := by
  obtain ⟨s₀, ls, h₀, hrun⟩ := h
  exact hrun.keeps hstep (hinit h₀)

theorem Run.append {s t u : σ} {ls ms : List ℓ} (h : Run M s ls t) (h' : Run M t ms u) : Run M s (ls ++ ms) u := by
  induction h with
  | nil s => exact h'
  | cons hs _ ih => exact .cons hs (ih h')

/-- Some run leads from `s` to `t`. -/
def Leads (M : System σ ℓ) (s t : σ) : Prop := ∃ ls, Run M s ls t

instance : IsPreorder σ (Leads M) where
  refl s := ⟨[], .nil s⟩
  trans := by
    rintro s t u ⟨ls, h⟩ ⟨ms, h'⟩
    exact ⟨ls ++ ms, h.append h'⟩

theorem Leads.step {s t : σ} {l : ℓ} (hs : M.step s l t) : Leads M s t := ⟨[l], .cons hs (.nil t)⟩

theorem Leads.keeps {P : σ → Prop} (hstep : ∀ {s l t}, P s → M.step s l t → P t) {s t : σ} (h : Leads M s t)
    (hP : P s) : P t := by
  obtain ⟨ls, hrun⟩ := h
  exact hrun.keeps hstep hP

theorem Reachable.leads {s t : σ} (h : Reachable M s) (hl : Leads M s t) : Reachable M t := by
  obtain ⟨s₀, ls, h₀, hrun⟩ := h
  obtain ⟨ms, hrest⟩ := hl
  exact ⟨s₀, ls ++ ms, h₀, hrun.append hrest⟩

theorem Reachable.step {s t : σ} {l : ℓ} (h : Reachable M s) (hs : M.step s l t) : Reachable M t := by
  obtain ⟨s₀, ls, h₀, hrun⟩ := h
  exact ⟨s₀, ls ++ [l], h₀, hrun.append (.cons hs (.nil t))⟩

end Runs

/-! ## Some of the labels -/

/-- The system with only the steps whose labels satisfy `ok`. -/
def System.only (M : System σ ℓ) (ok : ℓ → Prop) : System σ ℓ where
  init := M.init
  step s l t := ok l ∧ M.step s l t

section Only

variable {M : System σ ℓ} {ok : ℓ → Prop} {s t : σ}

theorem Run.of_only {ls : List ℓ} (h : Run (M.only ok) s ls t) : Run M s ls t := by
  induction h with
  | nil s => exact .nil s
  | cons hs _ ih => exact .cons hs.2 ih

/-- Every step is of a kind that all labels are of. -/
theorem Run.to_only {ls : List ℓ} (hok : ∀ l, ok l) (h : Run M s ls t) : Run (M.only ok) s ls t := by
  induction h with
  | nil s => exact .nil s
  | cons hs _ ih => exact .cons ⟨hok _, hs⟩ ih

theorem Leads.to_only (hok : ∀ l, ok l) (h : Leads M s t) : Leads (M.only ok) s t := by
  obtain ⟨ls, hrun⟩ := h
  exact ⟨ls, hrun.to_only hok⟩

theorem Leads.of_only (h : Leads (M.only ok) s t) : Leads M s t := by
  obtain ⟨ls, hrun⟩ := h
  exact ⟨ls, hrun.of_only⟩

theorem Reachable.of_only (h : Reachable (M.only ok) s) : Reachable M s := by
  obtain ⟨s₀, ls, h₀, hrun⟩ := h
  exact ⟨s₀, ls, h₀, hrun.of_only⟩

end Only

/-! ## Forward simulation -/

/-- `R` relates concrete to abstract states, initially and after every step with the same label. -/
structure Simulation (C : System σ ℓ) (A : System τ ℓ) (R : σ → τ → Prop) : Prop where
  init : ∀ {s}, C.init s → ∃ t, A.init t ∧ R s t
  step : ∀ {s t l s'}, R s t → C.step s l s' → ∃ t', A.step t l t' ∧ R s' t'

section Simulation

variable {C : System σ ℓ} {A : System τ ℓ} {R : σ → τ → Prop}

/-- A concrete run has an abstract run with the same labels, and related ends. -/
theorem Simulation.run (h : Simulation C A R) {s s' : σ} {ls : List ℓ} (hrun : Run C s ls s') :
    ∀ {t : τ}, R s t → ∃ t', Run A t ls t' ∧ R s' t' := by
  induction hrun with
  | nil s => exact fun {t} ht => ⟨t, .nil t, ht⟩
  | cons hs _ ih =>
    intro t ht
    obtain ⟨t₁, hstep, ht₁⟩ := h.step ht hs
    obtain ⟨t', hrest, ht'⟩ := ih ht₁
    exact ⟨t', .cons hstep hrest, ht'⟩

end Simulation

/-! ## Simulation with several steps -/

/-- Every step of the concrete system is matched by a run of the abstract one whose labels `E` allows for its label. -/
structure Explained {κ : Type} (C : System σ ℓ) (A : System τ κ) (E : ℓ → List κ → Prop) (R : σ → τ → Prop) : Prop where
  init : ∀ {s}, C.init s → ∃ t, A.init t ∧ R s t
  step : ∀ {s t l s'}, R s t → C.step s l s' → ∃ ks t', E l ks ∧ Run A t ks t' ∧ R s' t'

/-- A concrete run has an abstract run that is put together step by step, and related ends. -/
theorem Explained.run {κ : Type} {C : System σ ℓ} {A : System τ κ} {E : ℓ → List κ → Prop} {R : σ → τ → Prop}
    (h : Explained C A E R) {s s' : σ} {ls : List ℓ} (hrun : Run C s ls s') :
    ∀ {t : τ}, R s t → ∃ kss t', List.Forall₂ E ls kss ∧ Run A t kss.flatten t' ∧ R s' t' := by
  induction hrun with
  | nil s => exact fun {t} ht => ⟨[], t, .nil, .nil t, ht⟩
  | cons hs _ ih =>
    intro t ht
    obtain ⟨ks, t₁, hks, hfirst, ht₁⟩ := h.step ht hs
    obtain ⟨kss, t', hkss, hrest, ht'⟩ := ih ht₁
    exact ⟨ks :: kss, t', .cons hks hkss, hfirst.append hrest, ht'⟩

end Systems
