import BraleMiden.Chain.Burn

/-!
# What a failed operation leaves behind

A token operation that fails has submitted no transaction, with one exception: a burn whose first transaction was
accepted before the failure. So after an error the vaults, the issuance and the client's own unconsumed notes are what
they were, unless the call is such a burn (`error_unchanged_iff`), and an operation repeated until it succeeds moves its
amount once (`retry_once`).
-/

namespace BraleMiden

open Effects Systems Accounting Chain

variable {P : Params} {me : ClientId} {env : Env}

/-- Same vaults, same issuance, and the same unconsumed notes of client `me`. -/
structure Unchanged (me : ClientId) (s s' : Chain) : Prop where
  vault : s'.vault = s.vault
  issuance : s'.issuance = s.issuance
  unconsumedBy : ∀ n, n ∈ s'.notes.unconsumedBy me ↔ n ∈ s.notes.unconsumedBy me

theorem Chain.Synced.unchanged {s s' : Chain} (h : Synced s s') : Unchanged me s s' where
  vault := h.vault
  issuance := h.issuance
  unconsumedBy n := by rw [h.notes.unconsumedBy_eq]

/-- The call is a burn whose first transaction is accepted: its asset is valid, none of its three calls fails, and the
sender can output the burn note. -/
def FirstStepAccepted (P : Params) (env : Env) (s : Session Chain) : TokenCall → Prop
  | .burn snd i amount => (∀ k < 3, env.fails (s.calls + k) = false) ∧ i.isFaucet = true ∧ amount ≤ P.maxAmount ∧
      snd ∈ s.state.accounts ∧ CanOutput snd s.state (s.state.burnNote snd i ⟨i, amount⟩)
  | _ => False

/-! ## One failure -/

section Failure

variable {s s' : Session Chain} {e : Error}

/-- A consumption that fails has only synced. -/
theorem consumeAvailable_error {t : ConsumeTexts} {a : AccountId}
    (h : Op.run (consumeAvailable (chainClient P me env) t a) s = (.error e, s')) : Synced s.state s'.state := by
  have hpoll : (chainClient P me env).PollKeeps (OnState Synced) :=
    chainClient_pollKeeps fun s k => synced_sync s (env.block k)
  exact consumeAvailable_keepsOnError hpoll chainClient_submitFailsKeep t a _ _ _ h

theorem firstStepAccepted_burn {snd i : AccountId} {amount : ℕ} : FirstStepAccepted P env s (.burn snd i amount) ↔
    ∃ s₁, Op.run (createBurnOutput (chainClient P me env) snd i amount) s = (.ok (), s₁) := by
  simp only [createBurnOutput_chain, FirstStepAccepted]
  constructor
  · rintro ⟨hf, hi, hn, hsnd, hcan⟩
    exact ⟨_, hf, hi, hn, _, ⟨hsnd, hcan, s.state.notes.nextId_notMem, rfl⟩, rfl⟩
  · rintro ⟨_, hf, hi, hn, c, ⟨hsnd, hcan, -, -⟩, -⟩
    exact ⟨hf, hi, hn, hsnd, hcan⟩

/-- A call that fails without an accepted first step has only synced. -/
theorem error_synced {call : TokenCall} (h : Op.run (call.op (chainClient P me env)) s = (.error e, s'))
    (hfirst : ¬ FirstStepAccepted P env s call) : Synced s.state s'.state := by
  cases call with
  | mint i t n => exact mintTokens_keepsOnError (R := OnState Synced) chainClient_submitFailsKeep i t n _ _ _ h
  | transfer snd rcp i n =>
    exact transferTokens_keepsOnError (R := OnState Synced) chainClient_submitFailsKeep snd rcp i n _ _ _ h
  | consume a => exact consumeAvailable_error h
  | burn snd i n =>
    rcases burnTokens_error.1 h with hout | ⟨s₁, hout, -⟩
    · exact createBurnOutput_keepsOnError (R := OnState Synced) chainClient_submitFailsKeep snd i n _ _ _ hout
    · exact absurd (firstStepAccepted_burn.2 ⟨s₁, hout⟩) hfirst

/-- A burn that fails after its first step leaves its burn note behind. -/
theorem burn_error_changed {snd i : AccountId} {n : ℕ}
    (h : Op.run (burnTokens (chainClient P me env) snd i n) s = (.error e, s'))
    (hfirst : FirstStepAccepted P env s (.burn snd i n)) : ¬ Unchanged me s.state s'.state := by
  have hstep : ∃ s₁, Op.run (createBurnOutput (chainClient P me env) snd i n) s = (.ok (), s₁) :=
    firstStepAccepted_burn.1 hfirst
  obtain ⟨s₁, hout⟩ := hstep
  rcases burnTokens_error.1 h with herr | ⟨s₂, hout', hcons⟩
  · rw [hout] at herr
    cases herr
  · obtain rfl : s₁ = s₂ := by
      rw [hout] at hout'
      exact (Prod.mk.inj hout').2
    have hsync : Synced s₁.state s'.state := consumeAvailable_error hcons
    obtain ⟨-, -, -, c, ⟨-, -, hid, rfl⟩, rfl⟩ := createBurnOutput_chain.1 hout
    intro hsame
    -- the note of this call is unconsumed, and was not there before
    have hafter : s.state.burnNote snd i ⟨i, n⟩ ∈ s'.state.notes.unconsumedBy me := by
      rw [hsync.notes.unconsumedBy_eq]
      show _ ∈ (s.state.notes.insert _ _ hid).unconsumedBy me
      rw [NoteBook.unconsumedBy_insert]
      exact List.mem_append_right _ (List.mem_singleton_self _)
    have hbefore := (NoteBook.unconsumedBy_sublist me s.state.notes).subset ((hsame.unconsumedBy _).1 hafter)
    obtain ⟨e, he, hen, -⟩ := NoteBook.mem_unconsumed.1 hbefore
    exact hid (hen ▸ NoteBook.mem_ids he)

/-- After an error, nothing has changed if and only if the call is not a burn whose first transaction was accepted. -/
theorem error_unchanged_iff {call : TokenCall} (h : Op.run (call.op (chainClient P me env)) s = (.error e, s')) :
    Unchanged me s.state s'.state ↔ ¬ FirstStepAccepted P env s call := by
  refine ⟨fun hsame hfirst => ?_, fun hfirst => (error_synced h hfirst).unchanged⟩
  cases call with
  | burn snd i n => exact burn_error_changed h hfirst hsame
  | mint i t n => exact hfirst
  | transfer snd rcp i n => exact hfirst
  | consume a => exact hfirst

end Failure

/-! ## Repeating a call until it succeeds -/

section Retry

/-- What the operation moves, once: its amount, or the notes it consumes. A burn takes the amount from the sender, and
lowers the issuance by it when no other note was waiting for the issuer. -/
def Once (s s' : Chain) : TokenCall → Prop
  | .mint i t n => Moved i (s.payNote i t ⟨i, n⟩ .priv) s s'
  | .transfer snd rcp i n => Moved snd (s.payNote snd rcp ⟨i, n⟩ .priv) s s'
  | .consume a => ∃ ns, Collected a ns s s'
  | .burn snd i n => (s'.vault = if snd.isFaucet then s.vault else debit s.vault snd (Pi.single i n)) ∧
      (snd.isFaucet = false → s.outstanding i = [] →
        s'.notes.IsConsumed (s.burnNote snd i ⟨i, n⟩) ∧ s'.issuance i + n = s.issuance i)

/-- Attempts of a call that fail, none of them after an accepted first step. -/
def failedAttempts (P : Params) (me : ClientId) (env : Env) (call : TokenCall) : System (Session Chain) Error where
  init _ := True
  step s e s' := Op.run (call.op (chainClient P me env)) s = (.error e, s') ∧ ¬ FirstStepAccepted P env s call

/-- One call that ends well moves its amount once. -/
theorem ok_once {call : TokenCall} {s s' : Session Chain}
    (h : Op.run (call.op (chainClient P me env)) s = (.ok (), s')) : Once s.state s'.state call := by
  cases call with
  | mint i t n => exact (mintTokens_chain h).2.2.moved
  | transfer snd rcp i n => exact (transferTokens_chain h).2.2.moved
  | consume a => exact (consumeAvailable_chain h).collected
  | burn snd i n =>
    obtain ⟨hi, s₁, hout, s₂, hsync, -, -, -, -, hs'⟩ := burnTokens_chain h
    refine ⟨?_, fun hsnd hnil => burn_exact hsnd hnil h⟩
    rw [hs']
    simp only [afterConsume, if_pos hi, hsync.vault, hout.moved.vault]
    rfl

/-- Syncs before an operation do not change what it moves. -/
theorem Chain.Synced.once {call : TokenCall} {s s₁ s' : Chain} (h : Synced s s₁) (ho : Once s₁ s' call) :
    Once s s' call := by
  have hid : s₁.notes.nextId = s.notes.nextId := by unfold NoteBook.nextId; rw [h.notes.ids_eq]
  cases call with
  | mint i t n =>
    simp only [Once, payNote, hid] at ho ⊢
    exact ⟨h.accounts ▸ ho.accounts, h.issuance ▸ ho.issuance, h.vault ▸ ho.vault,
      h.notes.unconsumed_eq ▸ ho.unconsumed⟩
  | transfer snd rcp i n =>
    simp only [Once, payNote, hid] at ho ⊢
    exact ⟨h.accounts ▸ ho.accounts, h.issuance ▸ ho.issuance, h.vault ▸ ho.vault,
      h.notes.unconsumed_eq ▸ ho.unconsumed⟩
  | consume a =>
    obtain ⟨ns, hns⟩ := ho
    exact ⟨ns, h.collected hns⟩
  | burn snd i n =>
    simp only [Once, burnNote, hid, h.vault, h.issuance, h.outstanding_eq] at ho ⊢
    exact ho

/-- An operation repeated until it succeeds moves its amount once. -/
theorem retry_once {call : TokenCall} {s s₁ s' : Session Chain} {errors : List Error}
    (h : Run (failedAttempts P me env call) s errors s₁)
    (hok : Op.run (call.op (chainClient P me env)) s₁ = (.ok (), s')) : Once s.state s'.state call := by
  have hsync : Synced s.state s₁.state :=
    Run.keeps (M := failedAttempts P me env call) (P := fun t => Synced s.state t.state)
      (fun hst hstep => trans_of Synced hst (error_synced hstep.1 hstep.2)) h (refl_of Synced s.state)
  exact hsync.once (ok_once hok)

end Retry

/-- **Errors of the token operations.** After an error nothing has changed, if and only if the call is not a burn whose
first transaction was accepted; and a call whose failed attempts are all of this kind, repeated until it succeeds,
moves its amount once. -/
theorem errors_atomic (P : Params) (me : ClientId) (env : Env) (call : TokenCall) :
    (∀ s s' e, Op.run (call.op (chainClient P me env)) s = (.error e, s') →
      (Unchanged me s.state s'.state ↔ ¬ FirstStepAccepted P env s call)) ∧
    (∀ s errors s₁ s', Run (failedAttempts P me env call) s errors s₁ →
      Op.run (call.op (chainClient P me env)) s₁ = (.ok (), s') → Once s.state s'.state call) :=
  ⟨fun _ _ _ h => error_unchanged_iff h, fun _ _ _ _ h hok => retry_once h hok⟩

open LeftoverBurn

/-- Alice's burn, from call number `k`; the call with number 1 fails. -/
def secondCallFails (k : ℕ) (s : Chain) : Except Error Unit × Session Chain :=
  Op.run ((TokenCall.burn alice issuer 50).op (chainClient .protocol 0 ⟨fun k => k == 1, fun _ => some fun _ => true⟩))
    ⟨s, k⟩

/-- Her first attempt fails and changes nothing, her second burns 50 once. -/
theorem errors_atomic_second_call : Unchanged 0 funded (secondCallFails 0 funded).2.state ∧
    Once funded (secondCallFails 2 (secondCallFails 0 funded).2.state).2.state (.burn alice issuer 50) := by
  have hfirst : ¬ FirstStepAccepted .protocol ⟨fun k => k == 1, fun _ => some fun _ => true⟩ ⟨funded, 0⟩
      (.burn alice issuer 50) := fun h => absurd (h.1 1 (by decide)) (by decide)
  obtain ⟨hone, hall⟩ :=
    errors_atomic .protocol 0 ⟨fun k => k == 1, fun _ => some fun _ => true⟩ (.burn alice issuer 50)
  exact ⟨(hone ⟨funded, 0⟩ _ _ rfl).2 hfirst, hall ⟨funded, 0⟩ [_] _ _ (.cons ⟨rfl, hfirst⟩ (.nil _)) rfl⟩

/-- Her burn that fails at its first sync has already taken the 50 from her vault. -/
theorem burn_error_not_atomic : ∃ env e s',
    Op.run ((TokenCall.burn alice issuer 50).op (chainClient .protocol 0 env)) ⟨funded, 0⟩ = (.error e, s') ∧
      funded.vault alice issuer = 100 ∧ s'.state.vault alice issuer = 50 ∧ ¬ Unchanged 0 funded s'.state := by
  refine ⟨⟨fun k => k == 3, fun _ => none⟩, _, _, rfl, by decide, by decide, fun h => ?_⟩
  exact absurd (congrFun (congrFun h.vault alice) issuer) (by decide)

end BraleMiden
