import BraleMiden.Chain.Accounts
import BraleMiden.Operations.Authenticator
import BraleMiden.Operations.Lockstep
import BraleMiden.Signing.Agreement

/-!
# Who can move tokens

The keystore is the authenticator of the client: it signs every transaction, or the transaction is not submitted.

* `signed_iff`: with the simulated signer, and with the keys on disk, an operation ends well exactly when it does
  without signatures and the keys of the accounts it acts for are held;
* `unsigned_intact`: whatever the external signer answers, an account whose key it never signs for is left intact by
  every sequence of operations, however they end.
-/

namespace BraleMiden

open Effects Chain

section Authority

variable {σ : Type} {K : EcdsaK256Keccak} {c : AccountClient σ} {auth : Authenticator K σ} {s s' : σ}
  {call : TokenCall}

/-! ## Signing exactly for some accounts -/

/-- A keystore that signs for the accounts in `Q`, and for no others. -/
theorem TokenCall.op_authenticated_iff {Q : AccountId → Prop} (hsigns : ∀ a, Q a → auth.Signs a)
    (hsigned : ∀ a inputs sig, auth.keystore.getSignature (auth.authKey a) inputs = .ok sig → Q a) :
    Op.run (call.op (c.authenticated auth).toClient) s = (.ok (), s') ↔
      Op.run (call.op c.toClient) s = (.ok (), s') ∧ ∀ a ∈ call.authorisers, Q a := by
  constructor
  · intro h
    refine ⟨call.op_of_authenticated h, fun a ha => ?_⟩
    obtain ⟨req, s₁, s₂, hsubmit⟩ := TokenCall.submits_of_ok h a ha
    obtain ⟨⟨sig, hsig⟩, -⟩ := submit_authenticated_ok.1 hsubmit
    exact hsigned a _ sig hsig
  · intro h
    obtain ⟨hrun, hkeys⟩ := h
    rw [call.op_authenticated fun a ha => hsigns a (hkeys a ha)]
    exact hrun

/-- A key that the signer holds signs for its account. -/
theorem signs_registered (hK : K.Lawful) {fs : FilesystemKeyStore K} {keys : List K.SecretKey} {sk : K.SecretKey}
    (hsk : sk ∈ keys) {a : AccountId} (hks : auth.keystore = .new fs (registeredSigner keys))
    (hauth : auth.authKey a = K.commitmentOf sk) : auth.Signs a := by
  intro inputs
  have hkey : (SimulatedMpcSigner.new.registerAll keys).keys (K.commitmentOf sk) = some sk :=
    (SimulatedMpcSigner.new_registerAll_keys hK keys).2 ⟨rfl, hsk⟩
  rw [hks, hauth]
  exact ⟨_, getSignature_registered hK hkey inputs⟩

/-- The signer signs for no other key. -/
theorem registered_of_signature (hK : K.Lawful) {fs : FilesystemKeyStore K} {keys : List K.SecretKey}
    {com : PublicKeyCommitment} {inputs : SigningInputs} {sig : Signature}
    (h : (BraleKeystore.new fs (registeredSigner keys)).getSignature com inputs = .ok sig) :
    ∃ sk ∈ keys, com = K.commitmentOf sk := by
  cases hkey : (SimulatedMpcSigner.new.registerAll keys).keys com with
  | none =>
    have hrefused := getSignature_unknown fs hkey inputs
    rw [registeredSigner, hrefused] at h
    cases h
  | some sk =>
    obtain ⟨hcom, hsk⟩ := (SimulatedMpcSigner.new_registerAll_keys hK keys).1 hkey
    exact ⟨sk, hsk, hcom⟩

/-- **Operations and keys.** With the simulated signer, an operation ends well if and only if it does without
signatures, in the same state, and the keys of all accounts it acts for are registered; with the keys on disk, if and
only if these keys are stored. -/
theorem signed_iff (hK : K.Lawful) (c : AccountClient σ) (auth : Authenticator K σ) (fs : FilesystemKeyStore K)
    (keys : List K.SecretKey) (call : TokenCall) :
    (auth.keystore = .new fs (registeredSigner keys) → ∀ s s',
      Op.run (call.op (c.authenticated auth).toClient) s = (.ok (), s') ↔
        Op.run (call.op c.toClient) s = (.ok (), s') ∧
          ∀ a ∈ call.authorisers, ∃ sk ∈ keys, auth.authKey a = K.commitmentOf sk) ∧
      (auth.keystore = .passthrough fs → ∀ s s',
        Op.run (call.op (c.authenticated auth).toClient) s = (.ok (), s') ↔
          Op.run (call.op c.toClient) s = (.ok (), s') ∧
            ∀ a ∈ call.authorisers, ∃ sk, fs.getKey (auth.authKey a) = .ok (some sk)) := by
  constructor
  · intro hks s s'
    refine TokenCall.op_authenticated_iff ?_ ?_
    · intro a ha
      obtain ⟨sk, hsk, hauth⟩ := ha
      exact signs_registered hK hsk hks hauth
    · intro a inputs sig hsig
      rw [hks] at hsig
      exact registered_of_signature hK hsig
  · intro hks s s'
    refine TokenCall.op_authenticated_iff ?_ ?_
    · intro a ha inputs
      obtain ⟨sk, hsk⟩ := ha
      rw [hks]
      exact ⟨_, getSignature_passthrough.2 ⟨sk, hsk, rfl⟩⟩
    · intro a inputs sig hsig
      rw [hks] at hsig
      obtain ⟨sk, hsk, -⟩ := getSignature_passthrough.1 hsig
      exact ⟨sk, hsk⟩

end Authority

/-! ## An account without its key -/

section Unsigned

variable {K : EcdsaK256Keccak} {P : Params} {me : ClientId} {env : Env} {seeds : ℕ → Vector UInt8 32}
  {auth : Authenticator K (Session Chain)} {others : ℕ → Chain → Chain} {x : AccountId}

/-- The keystore never signs for the key of `x`. -/
def Authenticator.Silent {σ : Type} (auth : Authenticator K σ) (x : AccountId) : Prop :=
  ∀ inputs sig, auth.keystore.getSignature (auth.authKey x) inputs ≠ .ok sig

/-- Client `me` with the keystore, while others act on the chain before each of its calls. -/
def signingClient (P : Params) (me : ClientId) (seeds : ℕ → Vector UInt8 32) (auth : Authenticator K (Session Chain))
    (others : ℕ → Chain → Chain) (env : Env) : Client (Session Chain) :=
  ((accountClient P me env seeds).authenticated auth).toClient.interleaved (Session.meanwhile others)

/-- A transaction of `x` is not submitted, and those of the other accounts do not touch it. -/
theorem submit_silent (hx : auth.Silent x) (a : AccountId) (req : TransactionRequest) :
    Keeps (OnState (Intact x))
      (((accountClient P me env seeds).authenticated auth).submitNewTransaction a req) := by
  intro s
  cases hrun : Op.run (((accountClient P me env seeds).authenticated auth).submitNewTransaction a req) s with
  | mk r s' =>
    cases r with
    | ok u =>
      obtain ⟨⟨sig, hsig⟩, hsubmit⟩ := submit_authenticated_ok.1 hrun
      have hne : x ≠ a := by
        rintro rfl
        exact hx _ sig hsig
      obtain ⟨-, s₁, hs, rfl⟩ := chainClient_submitNewTransaction_ok.1 hsubmit
      exact submit_intact hne hs
    | error e =>
      have hfails : KeepsOnError (OnState (Intact x)) ((accountClient P me env seeds).submitNewTransaction a req) :=
        chainClient_submitFailsKeep.submitNewTransaction a req
      exact submit_authenticated_keepsOnError hfails s s' e hrun

theorem signingClient_keeps (hx : auth.Silent x) (ho : ∀ k s, Intact x s (others k s)) :
    (signingClient P me seeds auth others env).Keeps (OnState (Intact x)) := by
  have hpoll : (chainClient P me env).PollKeeps (OnState (Intact x)) := by
    refine chainClient_pollKeeps fun s k => ?_
    cases env.block k with
    | none => exact refl s
    | some incl => exact produceBlock_intact x incl s
  have hbuild : (chainClient P me env).BuildKeeps (OnState (Intact x)) := chainClient_buildKeeps
  have hclient : ((accountClient P me env seeds).authenticated auth).toClient.Keeps (OnState (Intact x)) := {
    syncState := hpoll.syncState
    getConsumableNotes := hpoll.getConsumableNotes
    createBurnNote := hbuild.createBurnNote
    buildMintFungibleAsset := hbuild.buildMintFungibleAsset
    buildPayToId := hbuild.buildPayToId
    buildOwnOutputNotes := hbuild.buildOwnOutputNotes
    buildConsumeNotes := hbuild.buildConsumeNotes
    submitNewTransaction := submit_silent hx }
  exact hclient.interleaved fun s => ho s.calls s.state

/-- An operation that acts for `x` does not end well. -/
theorem silent_ne_ok (hx : auth.Silent x) {call : TokenCall} (hcall : x ∈ call.authorisers) (s : Session Chain) :
    (Op.run (call.op (signingClient P me seeds auth others env)) s).1 ≠ .ok () := by
  intro hok
  have hrun : Op.run (call.op (signingClient P me seeds auth others env)) s =
      (.ok (), (Op.run (call.op (signingClient P me seeds auth others env)) s).2) := Prod.ext hok rfl
  obtain ⟨req, s₁, s₂, hsubmit⟩ := TokenCall.submits_of_ok hrun x hcall
  rw [signingClient, Client.interleaved_submitNewTransaction, Op.run_after] at hsubmit
  obtain ⟨⟨sig, hsig⟩, -⟩ := submit_authenticated_ok.1 hsubmit
  exact hx _ sig hsig

/-- **No key, no tokens.** Whatever the external signer and the key store answer: an account that they never sign for is
left intact by every sequence of operations, among others that leave it intact, with any failures and any blocks. No
operation that acts for it ends well. -/
theorem unsigned_intact (hx : auth.Silent x) (ho : ∀ k s, Intact x s (others k s)) (l : List (Env × TokenCall))
    (s : Chain) :
    Intact x s (performAll (signingClient P me seeds auth others) l s).2 ∧
      List.Forall₂ (fun p r => x ∈ p.2.authorisers → r ≠ .ok ()) l
        (performAll (signingClient P me seeds auth others) l s).1 :=
  ⟨performAll_keeps (fun _ => signingClient_keeps hx ho) l s,
    performAll_ends (fun _ s hcall => silent_ne_ok hx hcall s) l s⟩

end Unsigned

/-! ## The issuer's key only -/

namespace IssuerKey

open TestVector

def issuer : AccountId := ⟨true, 1⟩

def alice : AccountId := ⟨false, 2⟩

/-- The key of the issuer is registered, Alice's is not. -/
def auth : Authenticator sdk (Session Chain) where
  keystore := .new ⟨fun _ => .ok none⟩ (registeredSigner [key])
  authKey a := if a.isFaucet then sdk.commitmentOf key else sdk.commitmentOf Key.other
  signingInputs _ _ _ := ⟨commitment⟩

theorem alice_silent : auth.Silent alice := by
  intro inputs sig hsig
  obtain ⟨sk, hsk, hcom⟩ := registered_of_signature sdk_lawful hsig
  obtain rfl := List.mem_singleton.1 hsk
  revert hcom
  decide

/-- The client without signatures. -/
def client : AccountClient (Session Chain) := accountClient .protocol 0 (.steady none) fun _ => Vector.replicate 32 0

/-- Alice has 100 tokens. -/
def funded : Chain :=
  (performAll (chainClient .protocol 0) [(.steady none, .mint issuer alice 100),
    (.steady (some fun _ => true), .consume alice)] (genesis {issuer, alice} fun _ => 1000)).2

/-- A burn of Alice's tokens, and a mint to her. -/
def attempts : List (Env × TokenCall) :=
  [(.steady none, .burn alice issuer 50), (.steady none, .mint issuer alice 10)]

/-- The attempts, with a block before each call. -/
def attempted : List (Except Error Unit) × Chain :=
  performAll (signingClient .protocol 0 (fun _ => Vector.replicate 32 0) auth fun _ => produceBlock fun _ => true)
    attempts funded

end IssuerKey

open IssuerKey

/-- The issuer's client can mint to Alice, and cannot pay for her. -/
theorem issuer_signs :
    (∃ s', Op.run ((TokenCall.mint issuer alice 100).op (client.authenticated auth).toClient) ⟨funded, 0⟩ =
        (.ok (), s')) ∧
      ∀ s', Op.run ((TokenCall.transfer alice issuer issuer 10).op (client.authenticated auth).toClient) ⟨funded, 0⟩ ≠
        (.ok (), s') := by
  constructor
  · have hmint := (signed_iff TestVector.sdk_lawful client auth _ [TestVector.key] (.mint issuer alice 100)).1 rfl
      ⟨funded, 0⟩
    refine ⟨_, (hmint _).2 ⟨rfl, ?_⟩⟩
    intro a ha
    obtain rfl := List.mem_singleton.1 ha
    exact ⟨_, List.mem_singleton_self _, rfl⟩
  · intro s' hrun
    have htransfer := (signed_iff TestVector.sdk_lawful client auth _ [TestVector.key]
      (.transfer alice issuer issuer 10)).1 rfl ⟨funded, 0⟩ s'
    obtain ⟨sk, hsk, hcom⟩ := (htransfer.1 hrun).2 alice (List.mem_singleton_self _)
    obtain rfl := List.mem_singleton.1 hsk
    revert hcom
    decide

/-- Alice keeps her tokens when the client tries to burn them, with blocks in between. -/
theorem alice_intact : attempted.2.vault alice issuer = 100 ∧ ∀ r ∈ attempted.1.head?, r ≠ .ok () := by
  have hblocks : ∀ (_ : ℕ) s, Intact alice s (produceBlock (fun _ => true) s) :=
    fun _ s => produceBlock_intact alice (fun _ => true) s
  have hunsigned : Intact alice funded attempted.2 ∧
      List.Forall₂ (fun p r => alice ∈ p.2.authorisers → r ≠ .ok ()) attempts attempted.1 :=
    unsigned_intact alice_silent hblocks attempts funded
  obtain ⟨hintact, hends⟩ := hunsigned
  obtain ⟨r, rs, hburn, -, hlist⟩ := List.forall₂_cons_left_iff.1 hends
  constructor
  · rw [hintact.vault]
    rfl
  · intro r' hr
    rw [hlist, List.head?_cons] at hr
    obtain rfl := Option.some.inj hr
    exact hburn (by simp [TokenCall.authorisers])

end BraleMiden
