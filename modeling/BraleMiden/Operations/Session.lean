import BraleMiden.Miden.Types

/-!
# Calls that can fail

A `Session` is the state of the world and the number of calls made so far; an `Env` says which calls fail, and which
pending notes a new block includes when a call syncs. A call that fails, or is refused, has no effect (`Env.call`).
-/

namespace BraleMiden

open Effects

variable {σ α : Type}

/-- A state and the number of calls made so far. -/
structure Session (σ : Type) where
  state : σ
  calls : ℕ

/-- One more call, which left the state `c`. -/
def Session.next (s : Session σ) (c : σ) : Session σ := ⟨c, s.calls + 1⟩

@[simp] theorem Session.next_state (s : Session σ) (c : σ) : (s.next c).state = c := rfl

@[simp] theorem Session.next_calls (s : Session σ) (c : σ) : (s.next c).calls = s.calls + 1 := rfl

/-- The session after the others have acted before its next call. -/
def Session.meanwhile (others : ℕ → σ → σ) (s : Session σ) : Session σ := ⟨others s.calls s.state, s.calls⟩

@[simp] theorem Session.meanwhile_state (others : ℕ → σ → σ) (s : Session σ) :
    (s.meanwhile others).state = others s.calls s.state := rfl

/-- What happens at each call: whether it fails, and the block (if any) that a sync sees. -/
structure Env where
  fails : ℕ → Bool
  block : ℕ → Option (NoteId → Bool)

namespace Env

/-- No call fails, and every sync sees `block`. -/
def steady (block : Option (NoteId → Bool)) : Env := ⟨fun _ => false, fun _ => block⟩

/-- A call at the current call number: it fails without effect, or answers and changes the state by `f`. -/
def call (env : Env) (f : ℕ → σ → Except Error (α × σ)) : Op (Session σ) Error α :=
  Op.mk fun s =>
    if env.fails s.calls then (.error (.msg "client call failed"), s.next s.state)
    else match f s.calls s.state with
      | .ok (x, c) => (.ok x, s.next c)
      | .error e => (.error e, s.next s.state)

/-- A call that only reads the state. -/
def read (env : Env) (g : σ → α) : Op (Session σ) Error α := env.call fun _ s => .ok (g s, s)

/-- A call that only reads the state, and may be refused. -/
def consult (env : Env) (g : σ → Except Error α) : Op (Session σ) Error α :=
  env.call fun _ s => (g s).map fun x => (x, s)

variable {env : Env} {s s' : Session σ}

theorem run_call_ok {f : ℕ → σ → Except Error (α × σ)} {x : α} : Op.run (env.call f) s = (.ok x, s') ↔
    env.fails s.calls = false ∧ ∃ c, f s.calls s.state = .ok (x, c) ∧ s' = s.next c := by
  simp only [call, Op.run_mk]
  cases env.fails s.calls with
  | true => simp
  | false =>
    rcases f s.calls s.state with e | ⟨y, c⟩
    · simp
    · simp only [Bool.false_eq_true, ↓reduceIte, Prod.mk.injEq, Except.ok.injEq, true_and]
      exact ⟨fun ⟨h₁, h₂⟩ => ⟨c, ⟨h₁, rfl⟩, h₂.symm⟩, fun ⟨_, ⟨h₁, h₂⟩, h₃⟩ => ⟨h₁, by rw [h₃, h₂]⟩⟩

theorem run_read_ok {g : σ → α} {x : α} : Op.run (env.read g) s = (.ok x, s') ↔
    env.fails s.calls = false ∧ x = g s.state ∧ s' = s.next s.state := by
  rw [read, run_call_ok]
  simp only [Except.ok.injEq, Prod.mk.injEq]
  exact ⟨fun ⟨h, _, ⟨h₁, h₂⟩, h₃⟩ => ⟨h, h₁.symm, by rw [h₃, h₂]⟩, fun ⟨h, h₁, h₃⟩ => ⟨h, _, ⟨h₁.symm, rfl⟩, h₃⟩⟩

theorem run_consult_ok {g : σ → Except Error α} {x : α} : Op.run (env.consult g) s = (.ok x, s') ↔
    env.fails s.calls = false ∧ g s.state = .ok x ∧ s' = s.next s.state := by
  rw [consult, run_call_ok]
  cases g s.state with
  | error e => simp [Except.map]
  | ok y => simp [Except.map, and_assoc]

/-- A call that fails, or is refused, leaves the state alone. -/
theorem run_call_error {f : ℕ → σ → Except Error (α × σ)} {e : Error}
    (h : Op.run (env.call f) s = (.error e, s')) : s'.state = s.state := by
  simp only [call, Op.run_mk] at h
  split at h
  · cases h; rfl
  · split at h
    · cases h
    · cases h; rfl

end Env

/-! ## Relations of states, read on sessions -/

/-- The states of two sessions are related. -/
abbrev OnState (R : σ → σ → Prop) (s s' : Session σ) : Prop := R s.state s'.state

instance {R : σ → σ → Prop} [IsPreorder σ R] : IsPreorder (Session σ) (OnState R) where
  refl _ := refl (r := R) _
  trans s₁ s₂ s₃ := trans_of R (a := s₁.state) (b := s₂.state) (c := s₃.state)

variable {R : σ → σ → Prop} [IsPreorder σ R] {env : Env}

theorem Env.call_keeps {f : ℕ → σ → Except Error (α × σ)} (hf : ∀ {k s x c}, f k s = .ok (x, c) → R s c) :
    Keeps (OnState R) (env.call f) := by
  intro s
  simp only [Env.call, Op.run_mk]
  split
  · exact refl s.state
  · cases h : f s.calls s.state with
    | error e => exact refl s.state
    | ok p => exact hf h

theorem Env.read_keeps (g : σ → α) : Keeps (OnState R) (env.read g) := Env.call_keeps fun h => by
  cases h
  exact refl _

theorem Env.consult_keeps (g : σ → Except Error α) : Keeps (OnState R) (env.consult g) :=
  Env.call_keeps fun {k s x c} h => by
    cases hg : g s with
    | error e =>
      rw [hg] at h
      cases h
    | ok y =>
      rw [hg] at h
      cases h
      exact refl _

end BraleMiden
