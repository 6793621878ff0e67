import BraleMiden.Lib.Lockstep
import BraleMiden.Operations.Reads
import BraleMiden.Operations.Session
import BraleMiden.Operations.Tokens

/-!
# The operations at two clients

Two clients whose calls are in lockstep run every operation in lockstep (`TokenCall.op_lockstep`), every sequence of
operations (`performAll_lockstep`) and every read. So what is proved of the operations at one client holds at the other.
-/

namespace BraleMiden

open Effects

variable {σ τ : Type}

/-- The calls of `c` and `c'` are in lockstep. Notes are listed, and transactions submitted, for accounts in `A`. -/
structure Client.Lockstep (R : σ → τ → Prop) (A : AccountId → Prop) (c : Client σ) (c' : Client τ) : Prop where
  fungibleAssetNew : c.fungibleAssetNew = c'.fungibleAssetNew
  createBurnNote : ∀ s i a, Effects.Lockstep R (c.createBurnNote s i a) (c'.createBurnNote s i a)
  buildMintFungibleAsset : ∀ a t n,
    Effects.Lockstep R (c.buildMintFungibleAsset a t n) (c'.buildMintFungibleAsset a t n)
  buildPayToId : ∀ p n, Effects.Lockstep R (c.buildPayToId p n) (c'.buildPayToId p n)
  buildOwnOutputNotes : ∀ ns, Effects.Lockstep R (c.buildOwnOutputNotes ns) (c'.buildOwnOutputNotes ns)
  buildConsumeNotes : ∀ ns, Effects.Lockstep R (c.buildConsumeNotes ns) (c'.buildConsumeNotes ns)
  syncState : Effects.Lockstep R c.syncState c'.syncState
  getConsumableNotes : ∀ a, A a → Effects.Lockstep R (c.getConsumableNotes a) (c'.getConsumableNotes a)
  converts : c.converts = c'.converts
  submitNewTransaction : ∀ a, A a → ∀ req,
    Effects.Lockstep R (c.submitNewTransaction a req) (c'.submitNewTransaction a req)
  getAccount : ∀ a, Effects.Lockstep R (c.getAccount a) (c'.getAccount a)

section Operations

variable {R : σ → τ → Prop} {A : AccountId → Prop} {c : Client σ} {c' : Client τ}

/-! ## Operations -/

theorem pollAttempt_lockstep (h : c.Lockstep R A c') (t : ConsumeTexts) {a : AccountId} (ha : A a) (attempt : ℕ) :
    Lockstep R (pollAttempt c t a attempt) (pollAttempt c' t a attempt) := by
  refine .bind (h.syncState.mapError _ _) fun _ => .bind ((h.getConsumableNotes a ha).mapError _ _) fun consumable => ?_
  cases consumable.isEmpty with
  | false => exact .pure true
  | true =>
    cases attempt == maxAttempts with
    | false => exact .pure false
    | true => exact .bind (.throw _ _) fun _ => .pure false

theorem consumeAvailable_lockstep (h : c.Lockstep R A c') (t : ConsumeTexts) {a : AccountId} (ha : A a) :
    Lockstep R (consumeAvailable c t a) (consumeAvailable c' t a) := by
  have hinto : c.tryInto = c'.tryInto := by
    unfold Client.tryInto
    rw [h.converts]
  refine .bind (.forBreak (pollAttempt_lockstep h t ha) _) fun _ =>
    .bind ((h.getConsumableNotes a ha).mapError _ _) fun consumable => ?_
  rw [hinto]
  exact .bind ((h.buildConsumeNotes _).mapError _ _) fun req => (h.submitNewTransaction a ha req).mapError _ _

theorem mintTokens_lockstep (h : c.Lockstep R A c') {i : AccountId} (hi : A i) (t : AccountId) (n : ℕ) :
    Lockstep R (mintTokens c i t n) (mintTokens c' i t n) := by
  unfold mintTokens
  rw [h.fungibleAssetNew]
  exact .bind (Lockstep.mapError (.ofExcept _) _ _) fun _ =>
    .bind ((h.buildMintFungibleAsset _ _ _).mapError _ _) fun req => (h.submitNewTransaction i hi req).mapError _ _

theorem transferTokens_lockstep (h : c.Lockstep R A c') {snd : AccountId} (hsnd : A snd) (rcp i : AccountId) (n : ℕ) :
    Lockstep R (transferTokens c snd rcp i n) (transferTokens c' snd rcp i n) := by
  unfold transferTokens
  rw [h.fungibleAssetNew]
  exact .bind (Lockstep.mapError (.ofExcept _) _ _) fun _ =>
    .bind ((h.buildPayToId _ _).mapError _ _) fun req => (h.submitNewTransaction snd hsnd req).mapError _ _

theorem createBurnOutput_lockstep (h : c.Lockstep R A c') {snd : AccountId} (hsnd : A snd) (i : AccountId) (n : ℕ) :
    Lockstep R (createBurnOutput c snd i n) (createBurnOutput c' snd i n) := by
  unfold createBurnOutput
  rw [h.fungibleAssetNew]
  exact .bind (Lockstep.mapError (.ofExcept _) _ _) fun _ =>
    .bind ((h.createBurnNote _ _ _).mapError _ _) fun _ =>
    .bind ((h.buildOwnOutputNotes _).mapError _ _) fun req => (h.submitNewTransaction snd hsnd req).mapError _ _

/-- **Every operation is in lockstep**, if the accounts it acts for are in `A`. -/
theorem TokenCall.op_lockstep (h : c.Lockstep R A c') {call : TokenCall} (hcall : ∀ a ∈ call.authorisers, A a) :
    Lockstep R (call.op c) (call.op c') := by
  cases call with
  | mint i t n => exact mintTokens_lockstep h (hcall i (by simp [authorisers])) t n
  | transfer snd rcp i n => exact transferTokens_lockstep h (hcall snd (by simp [authorisers])) rcp i n
  | consume a => exact consumeAvailable_lockstep h (consumeTexts a) (hcall a (by simp [authorisers]))
  | burn snd i n =>
    exact .bind (createBurnOutput_lockstep h (hcall snd (by simp [authorisers])) i n) fun _ =>
      consumeAvailable_lockstep h burnTexts (hcall i (by simp [authorisers]))

/-! ## Reads -/

theorem fullAccount_lockstep (h : c.Lockstep R A c') (a : AccountId) (failed missing tracked : String) :
    Lockstep R (fullAccount c a failed missing tracked) (fullAccount c' a failed missing tracked) := by
  refine .bind ((h.getAccount a).mapError _ _) fun record => .bind (.ofExcept _) fun data => ?_
  cases data with
  | full account => exact .pure account
  | partialData => exact .throw _ _

theorem readBalance_lockstep (h : c.Lockstep R A c') (a i : AccountId) :
    Lockstep R (readBalance c a i) (readBalance c' a i) :=
  .bind (fullAccount_lockstep h a _ _ _) fun _ => Lockstep.mapError (.ofExcept _) _ _

theorem readTotalSupply_lockstep (h : c.Lockstep R A c') (i : AccountId) :
    Lockstep R (readTotalSupply c i) (readTotalSupply c' i) :=
  .bind (fullAccount_lockstep h i _ _ _) fun _ => .bind (Lockstep.mapError (.ofExcept _) _ _) fun _ => .pure _

end Operations

/-! ## Sequences of operations -/

/-- The calls one after the other, each under its own environment, and how they end. -/
def performAll (client : Env → Client (Session σ)) : List (Env × TokenCall) → σ → List (Except Error Unit) × σ
  | [], s => ([], s)
  | (env, call) :: rest, s =>
    let (r, s') := Op.run (call.op (client env)) ⟨s, 0⟩
    let (rs, t) := performAll client rest s'.state
    (r :: rs, t)

/-- The states are related, after as many calls. -/
def Alongside (R : σ → τ → Prop) (s : Session σ) (t : Session τ) : Prop := s.calls = t.calls ∧ R s.state t.state

section Sequences

variable {R : σ → τ → Prop} {A : AccountId → Prop}

theorem performAll_lockstep {client : Env → Client (Session σ)} {client' : Env → Client (Session τ)}
    (h : ∀ env, (client env).Lockstep (Alongside R) A (client' env)) (l : List (Env × TokenCall))
    (hl : ∀ p ∈ l, ∀ a ∈ p.2.authorisers, A a) {s : σ} {t : τ} (hst : R s t) :
    List.Forall₂ EndAlike (performAll client l s).1 (performAll client' l t).1 ∧
      R (performAll client l s).2 (performAll client' l t).2 := by
  induction l generalizing s t with
  | nil => exact ⟨.nil, hst⟩
  | cons p rest ih =>
    obtain ⟨env, call⟩ := p
    have hcall := TokenCall.op_lockstep (h env) (hl (env, call) List.mem_cons_self)
    obtain ⟨hend, -, hnext⟩ := hcall ⟨s, 0⟩ ⟨t, 0⟩ ⟨rfl, hst⟩
    obtain ⟨hends, hlast⟩ := ih (fun p hp => hl p (List.mem_cons_of_mem _ hp)) hnext
    exact ⟨.cons hend hends, hlast⟩

/-- What every operation keeps, the sequence keeps. -/
theorem performAll_keeps {S : σ → σ → Prop} [IsPreorder σ S] {client : Env → Client (Session σ)}
    (h : ∀ env, (client env).Keeps (OnState S)) (l : List (Env × TokenCall)) (s : σ) :
    S s (performAll client l s).2 := by
  induction l generalizing s with
  | nil => exact refl s
  | cons p rest ih =>
    obtain ⟨env, call⟩ := p
    have hfirst : S s (Op.run (call.op (client env)) ⟨s, 0⟩).2.state := TokenCall.op_keeps (h env) call ⟨s, 0⟩
    exact trans_of S hfirst (ih _)

/-- What is true of the end of every call is true of the ends in the sequence. -/
theorem performAll_ends {client : Env → Client (Session σ)} {Q : Env × TokenCall → Except Error Unit → Prop}
    (h : ∀ p s, Q p (Op.run (p.2.op (client p.1)) s).1) (l : List (Env × TokenCall)) (s : σ) :
    List.Forall₂ Q l (performAll client l s).1 := by
  induction l generalizing s with
  | nil => exact .nil
  | cons p rest ih =>
    obtain ⟨env, call⟩ := p
    exact .cons (h (env, call) ⟨s, 0⟩) (ih _)

/-- Calls that both fail, or both answer alike and leave related states. -/
theorem Env.call_lockstep {α : Type} {env : Env} {f : ℕ → σ → Except Error (α × σ)} {g : ℕ → τ → Except Error (α × τ)}
    (h : ∀ k s t, R s t → (∃ x s' t', f k s = .ok (x, s') ∧ g k t = .ok (x, t') ∧ R s' t') ∨
      ∃ e e', f k s = .error e ∧ g k t = .error e') :
    Lockstep (Alongside R) (env.call f) (env.call g) := by
  rintro ⟨s, k⟩ ⟨t, k'⟩ ⟨hk, hst⟩
  obtain rfl : k = k' := hk
  simp only [Env.call, Op.run_mk]
  cases env.fails k with
  | true => exact ⟨trivial, rfl, hst⟩
  | false =>
    rcases h k s t hst with ⟨x, s', t', hf, hg, hnext⟩ | ⟨e, e', hf, hg⟩
    · rw [hf, hg]
      exact ⟨rfl, rfl, hnext⟩
    · rw [hf, hg]
      exact ⟨trivial, rfl, hst⟩

theorem Env.read_lockstep {α : Type} {env : Env} {f : σ → α} {g : τ → α} (h : ∀ s t, R s t → f s = g t) :
    Lockstep (Alongside R) (env.read f) (env.read g) := by
  refine Env.call_lockstep fun _ s t hst => .inl ⟨f s, s, t, rfl, ?_, hst⟩
  rw [h s t hst]

theorem Env.consult_lockstep {α : Type} {env : Env} {f : σ → Except Error α} {g : τ → Except Error α}
    (h : ∀ s t, R s t → f s = g t) : Lockstep (Alongside R) (env.consult f) (env.consult g) := by
  refine Env.call_lockstep fun _ s t hst => ?_
  rw [h s t hst]
  cases g t with
  | ok x => exact .inl ⟨x, s, t, rfl, rfl, hst⟩
  | error e => exact .inr ⟨e, e, rfl, rfl⟩

end Sequences

end BraleMiden
