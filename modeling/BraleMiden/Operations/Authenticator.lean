import BraleMiden.Operations.Issuer
import BraleMiden.Operations.Tokens
import BraleMiden.Signing.Keystore

/-!
# A client with an authenticator

`ClientBuilder::authenticator(keystore)`: a transaction of an account needs a signature for the key of the account, from
`get_signature` of the keystore, before it is submitted.

* `TokenCall.op_of_authenticated`: an operation that ends well with an authenticator ends the same way without one;
* `TokenCall.op_authenticated`: for accounts whose keys always sign, an authenticator changes nothing.
-/

namespace BraleMiden

open Effects

variable {σ : Type} {K : EcdsaK256Keccak}

/-- The keystore, with the key of each account and what is signed for a transaction. -/
structure Authenticator (K : EcdsaK256Keccak) (σ : Type) where
  keystore : BraleKeystore K
  authKey : AccountId → PublicKeyCommitment
  signingInputs : AccountId → TransactionRequest → σ → SigningInputs

namespace Authenticator

/-- The signature for a transaction. -/
def sign (auth : Authenticator K σ) (a : AccountId) (req : TransactionRequest) : Op σ Error Signature :=
  Op.mk fun s =>
    match auth.keystore.getSignature (auth.authKey a) (auth.signingInputs a req s) with
    | .ok sig => (.ok sig, s)
    | .error _ => (.error (.msg "failed to execute transaction"), s)

/-- The keys of the account always sign. -/
def Signs (auth : Authenticator K σ) (a : AccountId) : Prop :=
  ∀ inputs, ∃ sig, auth.keystore.getSignature (auth.authKey a) inputs = .ok sig

end Authenticator

/-- The client with an authenticator. -/
def AccountClient.authenticated (c : AccountClient σ) (auth : Authenticator K σ) : AccountClient σ where
  toClient := { c.toClient with
    submitNewTransaction := fun a req => do
      let _ ← auth.sign a req
      c.submitNewTransaction a req }
  fillBytes := c.fillBytes
  addAccount := c.addAccount

section Runs

variable {c : AccountClient σ} {auth : Authenticator K σ} {s s' : σ} {a : AccountId} {req : TransactionRequest}

theorem Authenticator.run_sign_ok {sig : Signature} : Op.run (auth.sign a req) s = (.ok sig, s') ↔
    auth.keystore.getSignature (auth.authKey a) (auth.signingInputs a req s) = .ok sig ∧ s' = s := by
  unfold sign
  rw [Op.run_mk]
  cases auth.keystore.getSignature (auth.authKey a) (auth.signingInputs a req s) with
  | error e => simp
  | ok sig' => simp [eq_comm]

/-- A transaction is accepted when it is signed, and accepted by the client without authenticator. -/
theorem submit_authenticated_ok :
    Op.run ((c.authenticated auth).submitNewTransaction a req) s = (.ok (), s') ↔
      (∃ sig, auth.keystore.getSignature (auth.authKey a) (auth.signingInputs a req s) = .ok sig) ∧
        Op.run (c.submitNewTransaction a req) s = (.ok (), s') := by
  show Op.run (auth.sign a req >>= fun _ => c.submitNewTransaction a req) s = _ ↔ _
  rw [Op.run_bind_ok]
  constructor
  · intro h
    obtain ⟨sig, t, hsign, hsubmit⟩ := h
    obtain ⟨hsig, rfl⟩ := Authenticator.run_sign_ok.1 hsign
    exact ⟨⟨sig, hsig⟩, hsubmit⟩
  · intro h
    obtain ⟨⟨sig, hsig⟩, hsubmit⟩ := h
    exact ⟨sig, s, Authenticator.run_sign_ok.2 ⟨hsig, rfl⟩, hsubmit⟩

/-- A refused transaction leaves what it leaves without an authenticator. -/
theorem submit_authenticated_keepsOnError {R : σ → σ → Prop} [IsPreorder σ R]
    (h : KeepsOnError R (c.submitNewTransaction a req)) :
    KeepsOnError R ((c.authenticated auth).submitNewTransaction a req) := by
  have hsign : Keeps R (auth.sign a req) := by
    intro s
    unfold Authenticator.sign
    rw [Op.run_mk]
    split
    · exact refl s
    · exact refl s
  exact .bind hsign fun _ => h

/-- An account whose keys sign submits as without authenticator. -/
theorem submit_authenticated (h : auth.Signs a) :
    (c.authenticated auth).submitNewTransaction a = c.submitNewTransaction a := by
  funext req s
  obtain ⟨sig, hsig⟩ := h (auth.signingInputs a req s)
  exact Op.run_bind_of_ok (Authenticator.run_sign_ok.2 ⟨hsig, rfl⟩) fun _ => c.submitNewTransaction a req

/-! ## The operations -/

theorem consumeAvailable_of_authenticated {t : ConsumeTexts}
    (h : Op.run (consumeAvailable (c.authenticated auth).toClient t a) s = (.ok (), s')) :
    Op.run (consumeAvailable c.toClient t a) s = (.ok (), s') := by
  obtain ⟨s₁, l, s₂, req, s₃, hpoll, hquery, hbuild, hsubmit⟩ := consumeAvailable_ok.1 h
  exact consumeAvailable_ok.2 ⟨s₁, l, s₂, req, s₃, hpoll, hquery, hbuild, (submit_authenticated_ok.1 hsubmit).2⟩

theorem createBurnOutput_of_authenticated {i : AccountId} {n : ℕ}
    (h : Op.run (createBurnOutput (c.authenticated auth).toClient a i n) s = (.ok (), s')) :
    Op.run (createBurnOutput c.toClient a i n) s = (.ok (), s') := by
  obtain ⟨asset, note, s₁, req, s₂, hasset, hnote, hbuild, hsubmit⟩ := createBurnOutput_ok.1 h
  exact createBurnOutput_ok.2 ⟨asset, note, s₁, req, s₂, hasset, hnote, hbuild, (submit_authenticated_ok.1 hsubmit).2⟩

theorem mintTokens_of_authenticated {i tgt : AccountId} {n : ℕ}
    (h : Op.run (mintTokens (c.authenticated auth).toClient i tgt n) s = (.ok (), s')) :
    Op.run (mintTokens c.toClient i tgt n) s = (.ok (), s') := by
  obtain ⟨asset, req, s₁, hasset, hbuild, hsubmit⟩ := mintTokens_ok.1 h
  exact mintTokens_ok.2 ⟨asset, req, s₁, hasset, hbuild, (submit_authenticated_ok.1 hsubmit).2⟩

theorem transferTokens_of_authenticated {snd rcp i : AccountId} {n : ℕ}
    (h : Op.run (transferTokens (c.authenticated auth).toClient snd rcp i n) s = (.ok (), s')) :
    Op.run (transferTokens c.toClient snd rcp i n) s = (.ok (), s') := by
  obtain ⟨asset, req, s₁, hasset, hbuild, hsubmit⟩ := transferTokens_ok.1 h
  exact transferTokens_ok.2 ⟨asset, req, s₁, hasset, hbuild, (submit_authenticated_ok.1 hsubmit).2⟩

theorem consumeNotes_of_authenticated
    (h : Op.run (consumeNotes (c.authenticated auth).toClient a) s = (.ok (), s')) :
    Op.run (consumeNotes c.toClient a) s = (.ok (), s') :=
  consumeAvailable_of_authenticated h

theorem burnTokens_of_authenticated {snd i : AccountId} {n : ℕ}
    (h : Op.run (burnTokens (c.authenticated auth).toClient snd i n) s = (.ok (), s')) :
    Op.run (burnTokens c.toClient snd i n) s = (.ok (), s') := by
  obtain ⟨t, hfirst, hsecond⟩ := burnTokens_ok.1 h
  exact burnTokens_ok.2 ⟨t, createBurnOutput_of_authenticated hfirst, consumeAvailable_of_authenticated hsecond⟩

/-- **An authenticator only refuses.** What ends well with it ends the same way without it. -/
theorem TokenCall.op_of_authenticated (call : TokenCall)
    (h : Op.run (call.op (c.authenticated auth).toClient) s = (.ok (), s')) :
    Op.run (call.op c.toClient) s = (.ok (), s') := by
  cases call with
  | mint i t n => exact mintTokens_of_authenticated h
  | transfer snd rcp i n => exact transferTokens_of_authenticated h
  | consume b => exact consumeNotes_of_authenticated h
  | burn snd i n => exact burnTokens_of_authenticated h

theorem consumeAvailable_authenticated {t : ConsumeTexts} (h : auth.Signs a) :
    consumeAvailable (c.authenticated auth).toClient t a = consumeAvailable c.toClient t a := by
  unfold consumeAvailable
  rw [submit_authenticated h]
  rfl

theorem createBurnOutput_authenticated {i : AccountId} {n : ℕ} (h : auth.Signs a) :
    createBurnOutput (c.authenticated auth).toClient a i n = createBurnOutput c.toClient a i n := by
  unfold createBurnOutput
  rw [submit_authenticated h]
  rfl

theorem mintTokens_authenticated {i tgt : AccountId} {n : ℕ} (h : auth.Signs i) :
    mintTokens (c.authenticated auth).toClient i tgt n = mintTokens c.toClient i tgt n := by
  unfold mintTokens
  rw [submit_authenticated h]
  rfl

theorem transferTokens_authenticated {snd rcp i : AccountId} {n : ℕ} (h : auth.Signs snd) :
    transferTokens (c.authenticated auth).toClient snd rcp i n = transferTokens c.toClient snd rcp i n := by
  unfold transferTokens
  rw [submit_authenticated h]
  rfl

theorem consumeNotes_authenticated (h : auth.Signs a) :
    consumeNotes (c.authenticated auth).toClient a = consumeNotes c.toClient a :=
  consumeAvailable_authenticated h

theorem burnTokens_authenticated {snd i : AccountId} {n : ℕ} (hsnd : auth.Signs snd) (hi : auth.Signs i) :
    burnTokens (c.authenticated auth).toClient snd i n = burnTokens c.toClient snd i n := by
  unfold burnTokens
  rw [createBurnOutput_authenticated hsnd, consumeAvailable_authenticated hi]

/-- With keys that sign, the operation is the one without authenticator. -/
theorem TokenCall.op_authenticated (call : TokenCall) (h : ∀ a ∈ call.authorisers, auth.Signs a) :
    call.op (c.authenticated auth).toClient = call.op c.toClient := by
  cases call with
  | mint i t n => exact mintTokens_authenticated (h i List.mem_cons_self)
  | transfer snd rcp i n => exact transferTokens_authenticated (h snd List.mem_cons_self)
  | consume b => exact consumeNotes_authenticated (h b List.mem_cons_self)
  | burn snd i n =>
    exact burnTokens_authenticated (h snd List.mem_cons_self) (h i (List.mem_cons_of_mem _ List.mem_cons_self))

end Runs

end BraleMiden
