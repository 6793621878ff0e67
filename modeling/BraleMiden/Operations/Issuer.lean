import BraleMiden.Operations.Reads
import BraleMiden.Signing.Ecdsa

/-!
# Accounts and token metadata

`create_wallet_account`, `deploy_issuer_account` and `read_token_metadata` of `operations.rs`. The account builder and
the faucet component belong to the SDK and are parameters (`Standards`), with `Standards.Lawful` for what is relied on.

An issuer is deployed with the supply cap reduced to a field element, and only the reduced cap is checked. So the
metadata read back is that of the call if and only if the cap was below the field's order, or the SDK refused the
reduced cap or another argument (`metadataExact_iff`).
-/

namespace BraleMiden

open Effects

variable {σ : Type}

/-! ## The SDK's functions -/

/-- `AccountType` -/
inductive AccountType
  | fungibleFaucet
  | regularAccountImmutableCode
deriving DecidableEq, Repr

/-- `AccountStorageMode` -/
inductive AccountStorageMode
  | pub
  | priv
deriving DecidableEq, Repr

/-- The components that accounts are built with, besides their authentication. -/
inductive Component (Faucet : Type)
  | basicWallet
  | basicFungibleFaucet (faucet : Faucet)

/-- Token symbols, the faucet component and the account builder. -/
structure Standards where
  TokenSymbol : Type
  /-- `TokenSymbol::new(text)` -/
  tokenSymbolNew : String → Except Error TokenSymbol
  /-- the text of a symbol -/
  symbolText : TokenSymbol → String
  /-- `Felt::from(symbol)` -/
  symbolFelt : TokenSymbol → Felt
  /-- `TokenSymbol::try_from(felt)` -/
  symbolTryFrom : Felt → Except Error TokenSymbol
  Faucet : Type
  /-- `BasicFungibleFaucet::new(symbol, decimals, max_supply)` -/
  faucetNew : TokenSymbol → UInt8 → Felt → Except Error Faucet
  /-- `AccountBuilder::new(seed)` with a type, a storage mode, a component and `AuthEcdsaK256Keccak`, then `build()` -/
  build : Vector UInt8 32 → AccountType → AccountStorageMode → Component Faucet → PublicKeyCommitment →
    Except Error Account
  /-- `FungibleAsset::MAX_AMOUNT` -/
  maxAmount : ℕ

/-- The metadata word of a faucet: `[max_supply, decimals, symbol, 0]`. -/
def Standards.metadataWord (sdk : Standards) (symbol : sdk.TokenSymbol) (decimals : UInt8) (maxSupply : Felt) : Word :=
  #v[maxSupply, Felt.new decimals.toUInt64, sdk.symbolFelt symbol, 0]

/-- What is relied on. -/
structure Standards.Lawful (sdk : Standards) : Prop where
  maxAmount_lt : sdk.maxAmount < feltModulus
  /-- A symbol has the text it was made from. -/
  symbolText_new : ∀ {text t}, sdk.tokenSymbolNew text = .ok t → sdk.symbolText t = text
  /-- Symbols survive their encoding. -/
  symbolTryFrom_felt : ∀ t, sdk.symbolTryFrom (sdk.symbolFelt t) = .ok t
  /-- A faucet has at most 12 decimals and a bounded supply. -/
  faucetNew_ok : ∀ t (d : UInt8) m, (∃ f, sdk.faucetNew t d m = .ok f) ↔ d ≤ 12 ∧ m.val ≤ sdk.maxAmount
  /-- A faucet account keeps its metadata word. -/
  build_metadata : ∀ {t d m f seed ty mode com account}, sdk.faucetNew t d m = .ok f →
    sdk.build seed ty mode (.basicFungibleFaucet f) com = .ok account →
    account.getItem .metadata = .ok (sdk.metadataWord t d m)

/-- The client, with the calls that create accounts. -/
structure AccountClient (σ : Type) extends Client σ where
  /-- `rng().fill_bytes(seed)` -/
  fillBytes : σ → Vector UInt8 32 × σ
  /-- `add_account(account, overwrite)` -/
  addAccount : Account → Bool → Op σ Error Unit

/-- An account that was added is in the store in full. -/
def AccountClient.Stores (c : AccountClient σ) : Prop :=
  ∀ account s s', Op.run (c.addAccount account false) s = (.ok (), s') →
    Op.run (c.getAccount account.id) s' = (.ok (some (.full account)), s')

/-! ## Creating accounts -/

section Create

variable (c : AccountClient σ) (sdk : Standards) {K : EcdsaK256Keccak}

/-- A fresh seed. -/
def initSeed : Op σ Error (Vector UInt8 32) := Op.mk fun s => (.ok (c.fillBytes s).1, (c.fillBytes s).2)

/-- Builds an account from a seed and adds it to the client. Both steps have a text of their own. -/
def buildAndAdd (seed : Vector UInt8 32) (accountType : AccountType) (storageMode : AccountStorageMode)
    (component : Component sdk.Faucet) (commitment : PublicKeyCommitment) (notBuilt notAdded : String) :
    Op σ Error Account := do
  let account ← context notBuilt (lift (sdk.build seed accountType storageMode component commitment))
  context notAdded (c.addAccount account false)
  return account

/-- `create_wallet_account` -/
def createWalletAccount (pubKey : K.PublicKey) (storageMode : AccountStorageMode) : Op σ Error Account := do
  let seed ← initSeed c
  let pubKeyCommitment : PublicKeyCommitment := ⟨K.toCommitment pubKey⟩
  buildAndAdd c sdk seed .regularAccountImmutableCode storageMode .basicWallet pubKeyCommitment
    "failed to build wallet account" "failed to add wallet account to client"

/-- `deploy_issuer_account` -/
def deployIssuerAccount (pubKey : K.PublicKey) (symbol : String) (decimals : UInt8) (maxSupply : UInt64) :
    Op σ Error Account := do
  let seed ← initSeed c
  let tokenSymbol ← context "invalid token symbol" (lift (sdk.tokenSymbolNew symbol))
  let pubKeyCommitment : PublicKeyCommitment := ⟨K.toCommitment pubKey⟩
  let faucet ← context "failed to create faucet component"
    (lift (sdk.faucetNew tokenSymbol decimals (Felt.new maxSupply)))
  buildAndAdd c sdk seed .fungibleFaucet .pub (.basicFungibleFaucet faucet) pubKeyCommitment
    "failed to build issuer account" "failed to add issuer account to client"

end Create

/-! ## Token metadata -/

/-- `TokenMetadata` -/
structure TokenMetadata (sdk : Standards) where
  symbol : sdk.TokenSymbol
  decimals : UInt8
  maxSupply : UInt64

/-- `read_token_metadata` -/
def readTokenMetadata (c : Client σ) (sdk : Standards) (issuerId : AccountId) : Op σ Error (TokenMetadata sdk) := do
  let account ← issuerAccount c issuerId
  let metadataWord ← context "failed to read metadata storage slot" (lift (account.getItem .metadata))
  let maxSupply := (metadataWord.get 0).asInt
  let decimals := (metadataWord.get 1).asInt.toUInt8
  let symbol ← context "invalid token symbol in faucet metadata" (lift (sdk.symbolTryFrom (metadataWord.get 2)))
  return ⟨symbol, decimals, maxSupply⟩

section Runs

variable {c : AccountClient σ} {sdk : Standards} {K : EcdsaK256Keccak} {s s' : σ} {account : Account}

/-- An account is created when it is built and added. -/
theorem run_buildAndAdd_ok {seed : Vector UInt8 32} {ty : AccountType} {mode : AccountStorageMode}
    {component : Component sdk.Faucet} {com : PublicKeyCommitment} {m m' : String} :
    Op.run (buildAndAdd c sdk seed ty mode component com m m') s = (.ok account, s') ↔
      sdk.build seed ty mode component com = .ok account ∧ Op.run (c.addAccount account false) s = (.ok (), s') := by
  rw [buildAndAdd, Op.run_bind_ok]
  constructor
  · intro h
    obtain ⟨acc, t, hrun, h⟩ := h
    obtain ⟨hbuild, rfl⟩ := run_context_lift_ok.1 hrun
    obtain ⟨u, s₁, hadd, h⟩ := Op.run_bind_ok.1 h
    cases h
    exact ⟨hbuild, run_context_ok.1 hadd⟩
  · intro h
    obtain ⟨hbuild, hadd⟩ := h
    exact ⟨account, s, run_context_lift_ok.2 ⟨hbuild, rfl⟩, Op.run_bind_ok.2 ⟨(), s', run_context_ok.2 hadd, rfl⟩⟩

/-- An issuer is deployed when the symbol, the faucet, the builder and the store accept, in this order. -/
theorem run_deployIssuerAccount_ok {pubKey : K.PublicKey} {symbol : String} {decimals : UInt8} {maxSupply : UInt64} :
    Op.run (deployIssuerAccount c sdk pubKey symbol decimals maxSupply) s = (.ok account, s') ↔
      ∃ t f, sdk.tokenSymbolNew symbol = .ok t ∧ sdk.faucetNew t decimals (Felt.new maxSupply) = .ok f ∧
        sdk.build (c.fillBytes s).1 .fungibleFaucet .pub (.basicFungibleFaucet f) ⟨K.toCommitment pubKey⟩ =
          .ok account ∧ Op.run (c.addAccount account false) (c.fillBytes s).2 = (.ok (), s') := by
  have hseed : Op.run (initSeed c) s = (.ok (c.fillBytes s).1, (c.fillBytes s).2) := rfl
  rw [deployIssuerAccount, Op.run_bind_of_ok hseed, Op.run_bind_ok]
  constructor
  · intro h
    obtain ⟨t, s₁, hsymbol, h⟩ := h
    obtain ⟨ht, rfl⟩ := run_context_lift_ok.1 hsymbol
    obtain ⟨f, s₂, hfaucet, h⟩ := Op.run_bind_ok.1 h
    obtain ⟨hf, rfl⟩ := run_context_lift_ok.1 hfaucet
    exact ⟨t, f, ht, hf, run_buildAndAdd_ok.1 h⟩
  · intro h
    obtain ⟨t, f, ht, hf, h⟩ := h
    exact ⟨t, _, run_context_lift_ok.2 ⟨ht, rfl⟩,
      Op.run_bind_ok.2 ⟨f, _, run_context_lift_ok.2 ⟨hf, rfl⟩, run_buildAndAdd_ok.2 h⟩⟩

/-- A wallet is created when the builder and the store accept. -/
theorem run_createWalletAccount_ok {pubKey : K.PublicKey} {mode : AccountStorageMode} :
    Op.run (createWalletAccount c sdk pubKey mode) s = (.ok account, s') ↔
      sdk.build (c.fillBytes s).1 .regularAccountImmutableCode mode .basicWallet ⟨K.toCommitment pubKey⟩ = .ok account ∧
        Op.run (c.addAccount account false) (c.fillBytes s).2 = (.ok (), s') := by
  have hseed : Op.run (initSeed c) s = (.ok (c.fillBytes s).1, (c.fillBytes s).2) := rfl
  rw [createWalletAccount, Op.run_bind_of_ok hseed, run_buildAndAdd_ok]

/-! ### Calls that create nothing -/

section KeepsOnError

variable {R : σ → σ → Prop} [IsPreorder σ R]

theorem buildAndAdd_keepsOnError (hadd : ∀ account, KeepsOnError R (c.addAccount account false))
    {seed : Vector UInt8 32} {ty : AccountType} {mode : AccountStorageMode} {component : Component sdk.Faucet}
    {com : PublicKeyCommitment} {m m' : String} :
    KeepsOnError R (buildAndAdd c sdk seed ty mode component com m m') := by
  refine .bind (Keeps.mapError (.ofExcept _) _) fun account => ?_
  intro s s' e h
  rcases Op.run_bind_error.1 h with herror | ⟨_, t, -, hret⟩
  · exact (hadd account).mapError _ s s' e herror
  · cases hret

/-- A failing call that creates an account leaves what a new seed and a refused account leave. -/
theorem createWalletAccount_keepsOnError (hseed : Keeps R (initSeed c))
    (hadd : ∀ account, KeepsOnError R (c.addAccount account false)) {pubKey : K.PublicKey} {mode : AccountStorageMode} :
    KeepsOnError R (createWalletAccount c sdk pubKey mode) :=
  .bind hseed fun _ => buildAndAdd_keepsOnError hadd

theorem deployIssuerAccount_keepsOnError (hseed : Keeps R (initSeed c))
    (hadd : ∀ account, KeepsOnError R (c.addAccount account false)) {pubKey : K.PublicKey} {symbol : String}
    {decimals : UInt8} {maxSupply : UInt64} :
    KeepsOnError R (deployIssuerAccount c sdk pubKey symbol decimals maxSupply) :=
  .bind hseed fun _ => .bind (Keeps.mapError (.ofExcept _) _) fun _ => .bind (Keeps.mapError (.ofExcept _) _) fun _ =>
    buildAndAdd_keepsOnError hadd

end KeepsOnError

/-- What is read from a word with the symbol `t`. -/
def TokenMetadata.ofWord (t : sdk.TokenSymbol) (w : Word) : TokenMetadata sdk :=
  ⟨t, (w.get 1).asInt.toUInt8, (w.get 0).asInt⟩

/-- The maximum supply in the metadata of an account. -/
def maxSupplyOf (account : Account) : ℕ :=
  match account.getItem .metadata with
  | .ok w => (w.get 0).val
  | .error _ => 0

/-- A read of the metadata ends well if and only if the third element of the stored word is a symbol. -/
theorem run_readTokenMetadata_ok {c : Client σ} {a : AccountId} {acc : Account} {w : Word} {m : TokenMetadata sdk}
    {u : σ} (hacc : Op.run (c.getAccount a) s = (.ok (some (.full acc)), s')) (hw : acc.getItem .metadata = .ok w) :
    Op.run (readTokenMetadata c sdk a) s = (.ok m, u) ↔
      ∃ t, sdk.symbolTryFrom (w.get 2) = .ok t ∧ m = .ofWord t w ∧ u = s' := by
  rw [readTokenMetadata, issuerAccount, Op.run_bind_of_ok (run_fullAccount hacc _ _ _),
    Op.run_bind_of_ok (run_context_lift_ok.2 ⟨hw, rfl⟩), Op.run_bind_ok]
  constructor
  · intro h
    obtain ⟨t, v, hsymbol, hret⟩ := h
    obtain ⟨ht, rfl⟩ := run_context_lift_ok.1 hsymbol
    cases hret
    exact ⟨t, ht, rfl, rfl⟩
  · intro h
    obtain ⟨t, ht, rfl, rfl⟩ := h
    exact ⟨t, u, run_context_lift_ok.2 ⟨ht, rfl⟩, rfl⟩

/-- Eight bits survive as a field element. -/
theorem Felt.asInt_new_toUInt8 (d : UInt8) : (Felt.new d.toUInt64).asInt.toUInt8 = d := by
  have hlt : d.toUInt64.toNat < feltModulus := Nat.lt_trans d.toNat_lt (by decide)
  rw [Felt.asInt_new hlt, UInt8.toUInt8_toUInt64]

end Runs

/-! ## What is read back -/

section Exact

variable (c : AccountClient σ) (sdk : Standards) {K : EcdsaK256Keccak} (pubKey : K.PublicKey) (symbol : String)
  (decimals : UInt8) (maxSupply : UInt64) (s : σ)

/-- The metadata of the call are those read back, at any later time when the store has the account with the metadata it
was deployed with; and a cap above the maximum is refused. -/
structure MetadataExact : Prop where
  reads : ∀ account s', Op.run (deployIssuerAccount c sdk pubKey symbol decimals maxSupply) s = (.ok account, s') →
    ∀ s₁ s₂ acc, Op.run (c.getAccount account.id) s₁ = (.ok (some (.full acc)), s₂) →
      acc.getItem .metadata = account.getItem .metadata →
      ∃ m, Op.run (readTokenMetadata c.toClient sdk account.id) s₁ = (.ok m, s₂) ∧
        sdk.symbolText m.symbol = symbol ∧ m.decimals = decimals ∧ m.maxSupply = maxSupply
  capped : sdk.maxAmount < maxSupply.toNat → ∀ account s',
    Op.run (deployIssuerAccount c sdk pubKey symbol decimals maxSupply) s ≠ (.ok account, s')

/-- The account builder or the store refuses the account of the faucet `f`. -/
def BuildRefused (f : sdk.Faucet) : Prop :=
  ∀ account s', sdk.build (c.fillBytes s).1 .fungibleFaucet .pub (.basicFungibleFaucet f) ⟨K.toCommitment pubKey⟩ =
    .ok account → Op.run (c.addAccount account false) (c.fillBytes s).2 ≠ (.ok (), s')

variable {c sdk pubKey symbol decimals maxSupply s} {account : Account} {s' : σ}

/-- What a deployed account has in its metadata slot, with the bounds that were checked: the cap is the reduced one. -/
theorem deployed_metadata (hsdk : sdk.Lawful)
    (h : Op.run (deployIssuerAccount c sdk pubKey symbol decimals maxSupply) s = (.ok account, s')) :
    decimals ≤ 12 ∧ (Felt.new maxSupply).val ≤ sdk.maxAmount ∧ ∃ t, sdk.symbolText t = symbol ∧
      account.getItem .metadata = .ok (sdk.metadataWord t decimals (Felt.new maxSupply)) := by
  obtain ⟨t, f, ht, hf, hbuild, -⟩ := run_deployIssuerAccount_ok.1 h
  obtain ⟨hd, hm⟩ := (hsdk.faucetNew_ok t decimals _).1 ⟨f, hf⟩
  exact ⟨hd, hm, t, hsdk.symbolText_new ht, hsdk.build_metadata hf hbuild⟩

/-- Reading a deployed account gives the symbol and the decimals of the call, and the reduced cap. -/
theorem read_deployed (hsdk : sdk.Lawful)
    (h : Op.run (deployIssuerAccount c sdk pubKey symbol decimals maxSupply) s = (.ok account, s')) {s₁ s₂ : σ}
    {acc : Account} (hacc : Op.run (c.getAccount account.id) s₁ = (.ok (some (.full acc)), s₂))
    (hslot : acc.getItem .metadata = account.getItem .metadata) :
    ∃ t, sdk.symbolText t = symbol ∧
      Op.run (readTokenMetadata c.toClient sdk account.id) s₁ =
        (.ok ⟨t, decimals, (Felt.new maxSupply).asInt⟩, s₂) := by
  obtain ⟨-, -, t, ht, hword⟩ := deployed_metadata hsdk h
  have hread : TokenMetadata.ofWord t (sdk.metadataWord t decimals (Felt.new maxSupply)) =
      ⟨t, decimals, (Felt.new maxSupply).asInt⟩ := by
    have hdecimals : (Felt.new decimals.toUInt64).asInt.toUInt8 = decimals := Felt.asInt_new_toUInt8 decimals
    exact congrArg (TokenMetadata.mk t · _) hdecimals
  exact ⟨t, ht, (run_readTokenMetadata_ok hacc (hslot.trans hword)).2
    ⟨t, hsdk.symbolTryFrom_felt t, hread.symm, rfl⟩⟩

/-- A deployment with a cap from the order of the field on is not read back as given. -/
theorem not_metadataExact (hsdk : sdk.Lawful) (hc : c.Stores)
    (h : Op.run (deployIssuerAccount c sdk pubKey symbol decimals maxSupply) s = (.ok account, s'))
    (hge : feltModulus ≤ maxSupply.toNat) : ¬ MetadataExact c sdk pubKey symbol decimals maxSupply s := by
  intro hexact
  obtain ⟨-, -, -, -, -, hadd⟩ := run_deployIssuerAccount_ok.1 h
  have hacc := hc account _ _ hadd
  obtain ⟨m, hm, -, -, hcap⟩ := hexact.reads account s' h s' s' account hacc rfl
  obtain ⟨t, -, hread⟩ := read_deployed hsdk h hacc rfl
  rw [hread] at hm
  cases hm
  -- The cap read back is reduced, so it is not the one of the call.
  have hsame : (Felt.new maxSupply).asInt = maxSupply := hcap
  have hreduced : (Felt.new maxSupply).asInt.toNat < feltModulus := by
    rw [Felt.asInt_toNat]
    exact (Felt.new maxSupply).isLt
  rw [hsame] at hreduced
  omega

/-- **Metadata round trip.** The metadata of every deployment are read back as given if and only if the cap is below the
order of the field, or the SDK refuses the call: the cap less the order, the decimals, the symbol, or the account. -/
theorem metadataExact_iff (hsdk : sdk.Lawful) (hc : c.Stores) :
    MetadataExact c sdk pubKey symbol decimals maxSupply s ↔
      maxSupply.toNat < feltModulus ∨ sdk.maxAmount < maxSupply.toNat - feltModulus ∨ 12 < decimals ∨
        (∀ t, sdk.tokenSymbolNew symbol ≠ .ok t) ∨
        ∀ t f, sdk.tokenSymbolNew symbol = .ok t → sdk.faucetNew t decimals (Felt.new maxSupply) = .ok f →
          BuildRefused c sdk pubKey s f := by
  constructor
  · intro hexact
    by_contra hcond
    simp only [not_or, not_forall] at hcond
    obtain ⟨hge, -, -, -, t, f, ht, hf, hbuilt⟩ := hcond
    simp only [BuildRefused, not_forall] at hbuilt
    obtain ⟨account, s', hbuild, hadd⟩ := hbuilt
    have hrun := run_deployIssuerAccount_ok.2 ⟨t, f, ht, hf, hbuild, not_not.1 hadd⟩
    exact not_metadataExact hsdk hc hrun (Nat.le_of_not_lt hge) hexact
  · intro hcond
    -- A deployment that succeeds had its cap below the order.
    have hlt : ∀ account s', Op.run (deployIssuerAccount c sdk pubKey symbol decimals maxSupply) s = (.ok account, s') →
        maxSupply.toNat < feltModulus := by
      intro account s' hrun
      obtain ⟨hd, hm, -⟩ := deployed_metadata hsdk hrun
      obtain ⟨t, f, ht, hf, hbuild, hadd⟩ := run_deployIssuerAccount_ok.1 hrun
      obtain h | h | h | h | h := hcond
      · exact h
      · by_contra hge
        rw [Felt.new_val_of_le (Nat.le_of_not_lt hge)] at hm
        omega
      · exact absurd hd (UInt8.not_le.2 h)
      · exact absurd ht (h t)
      · exact absurd hadd (h t f ht hf account s' hbuild)
    constructor
    · intro account s' hrun s₁ s₂ acc hacc hslot
      obtain ⟨t, ht, hread⟩ := read_deployed hsdk hrun hacc hslot
      exact ⟨_, hread, ht, rfl, Felt.asInt_new (hlt account s' hrun)⟩
    · intro hlarge account s' hrun
      obtain ⟨-, hm, -⟩ := deployed_metadata hsdk hrun
      rw [Felt.new_val, Nat.mod_eq_of_lt (hlt account s' hrun)] at hm
      omega

end Exact

/-! ## USDB -/

namespace Usdb

/-- The metadata answer of an account with this component. -/
def metadataOf : Component (UInt8 × Felt) → Except Error Word
  | .basicWallet => .error (.msg "storage slot not found")
  | .basicFungibleFaucet (decimals, maxSupply) => .ok #v[maxSupply, Felt.new decimals.toUInt64, 9457946, 0]

/-- An account of this type with this component. -/
def account (ty : AccountType) (component : Component (UInt8 × Felt)) : Account where
  id := ⟨ty = .fungibleFaucet, 1⟩
  getBalance _ := .ok 0
  getItem
    | .faucetSysdata => .ok (Vector.replicate 4 0)
    | .metadata => metadataOf component

/-- The SDK with the one symbol `USDB`, whose element is `9457946`. -/
def sdk : Standards where
  TokenSymbol := Unit
  tokenSymbolNew text := if text = "USDB" then .ok () else .error (.msg "invalid token symbol")
  symbolText _ := "USDB"
  symbolFelt _ := 9457946
  symbolTryFrom x := if x = 9457946 then .ok () else .error (.msg "invalid token symbol")
  Faucet := UInt8 × Felt
  faucetNew _ d m := if d ≤ 12 ∧ m.val ≤ 2 ^ 63 - 2 ^ 31 then .ok (d, m) else .error (.msg "invalid faucet")
  build _ ty _ component _ := .ok (account ty component)
  maxAmount := 2 ^ 63 - 2 ^ 31

theorem sdk_lawful : sdk.Lawful where
  maxAmount_lt := by decide
  symbolText_new := by
    intro text t h
    simp only [sdk] at h ⊢
    split at h
    · rename_i htext
      exact htext.symm
    · cases h
  symbolTryFrom_felt _ := by
    simp only [sdk, ↓reduceIte]
    rfl
  faucetNew_ok t d m := by
    simp only [sdk]
    split
    · rename_i h
      exact ⟨fun _ => h, fun _ => ⟨_, rfl⟩⟩
    · rename_i h
      refine ⟨fun hf => ?_, fun hd => absurd hd h⟩
      obtain ⟨f, hf⟩ := hf
      cases hf
  build_metadata := by
    intro t d m f seed ty mode com account hf hb
    simp only [sdk] at hf hb
    cases hb
    split at hf
    · cases hf
      rfl
    · cases hf

/-- A call that fails. -/
def offline {α : Type} : Op (List Account) Error α := bail "offline"

/-- A client that only keeps the accounts added to it. -/
def client : AccountClient (List Account) where
  fungibleAssetNew f n := .ok ⟨f, n⟩
  createBurnNote _ _ _ := offline
  buildMintFungibleAsset _ _ _ := offline
  buildPayToId _ _ := offline
  buildOwnOutputNotes _ := offline
  buildConsumeNotes _ := offline
  syncState := offline
  getConsumableNotes _ := offline
  converts _ := true
  submitNewTransaction _ _ := offline
  getAccount a := Op.mk fun s => (.ok ((s.find? (·.id = a)).map .full), s)
  fillBytes s := (Vector.replicate 32 0, s)
  addAccount account _ := Op.mk fun s => (.ok (), account :: s)

theorem client_stores : client.Stores := by
  intro account s s' h
  cases h
  show (_, _) = _
  rw [List.find?_cons_of_pos (by simp)]
  rfl

end Usdb

open TestVector in
/-- With the default arguments the metadata are read back as given. -/
theorem usdb_metadataExact :
    MetadataExact Usdb.client Usdb.sdk (sdk.publicKey key) "USDB" 6 1000000000000 [] :=
  (metadataExact_iff Usdb.sdk_lawful Usdb.client_stores).2 (.inl (by decide))

open TestVector in
/-- With the largest `u64` as the cap, the issuer is deployed with a cap of `4294967294`. -/
theorem usdb_cap_wraps : ∃ account s',
    Op.run (deployIssuerAccount Usdb.client Usdb.sdk (sdk.publicKey key) "USDB" 6 18446744073709551615) [] =
        (.ok account, s') ∧
      Op.run (readTokenMetadata Usdb.client.toClient Usdb.sdk account.id) s' = (.ok ⟨(), 6, 4294967294⟩, s') ∧
      ¬ MetadataExact Usdb.client Usdb.sdk (sdk.publicKey key) "USDB" 6 18446744073709551615 [] := by
  have hfaucet : Usdb.sdk.faucetNew () 6 (Felt.new 18446744073709551615) = .ok (6, 4294967294) := rfl
  have hdeploy :
      Op.run (deployIssuerAccount Usdb.client Usdb.sdk (sdk.publicKey key) "USDB" 6 18446744073709551615) [] =
      (.ok (Usdb.account .fungibleFaucet (.basicFungibleFaucet (6, 4294967294))),
        [Usdb.account .fungibleFaucet (.basicFungibleFaucet (6, 4294967294))]) :=
    run_deployIssuerAccount_ok.2 ⟨(), (6, 4294967294), rfl, hfaucet, rfl, rfl⟩
  obtain ⟨t, -, hread⟩ := read_deployed Usdb.sdk_lawful hdeploy (Usdb.client_stores _ _ _ rfl) rfl
  exact ⟨_, _, hdeploy, hread, not_metadataExact Usdb.sdk_lawful Usdb.client_stores hdeploy (by decide)⟩

end BraleMiden
