import BraleMiden.Lib.Systems
import BraleMiden.Operations.Issuer
import BraleMiden.Operations.Tokens
import BraleMiden.Signing.Keystore

/-!
# The command line tools

`create_account`, `deploy_issuer`, `mint`, `transfer` and `burn` of `src/bin`, after their arguments are parsed. All
start alike (`startup`): a fresh key, a signer that holds this key only, and the key store on disk with the key added.
The invocations share the disk and nothing else; `shell` runs one after the other.

* `startup_ok`: what a process that came up holds;
* `main_keeps`, `main_ok`: an invocation touches no stored key but its own, and has stored it if it ends well;
* `persisted`: the key of every account that was created stays in the key store;
* `signing_unavailable`: no later process signs for it, because the signer it asks holds another key only.
-/

namespace BraleMiden.Bin

open Effects Systems

variable {K : EcdsaK256Keccak} {σ : Type}

/-! ## One invocation -/

/-- What is asked for, with the parsed arguments. -/
inductive Command
  | createAccount
  | deployIssuer (symbol : String) (decimals : UInt8) (maxSupply : UInt64)
  | mint (issuerId targetId : AccountId) (amount : UInt64)
  | transfer (senderId recipientId issuerId : AccountId) (amount : UInt64)
  | burn (senderId issuerId : AccountId) (amount : UInt64)
deriving DecidableEq, Repr

/-- The operation of `operations.rs` that moves tokens for the command. -/
def Command.call : Command → Option TokenCall
  | .mint issuerId targetId amount => some (.mint issuerId targetId amount.toNat)
  | .transfer senderId recipientId issuerId amount => some (.transfer senderId recipientId issuerId amount.toNat)
  | .burn senderId issuerId amount => some (.burn senderId issuerId amount.toNat)
  | _ => none

/-- A command, the key that `SecretKey::new()` gives the process, and the answers it gets while starting. -/
structure Invocation (K : EcdsaK256Keccak) (σ : Type) where
  command : Command
  secretKey : K.SecretKey
  /-- `Endpoint::try_from(..)` -/
  endpoint : Except Error Unit
  /-- `FilesystemKeyStore::new(..)` -/
  openKeystore : Except Error Unit
  /-- `add_key(..)` with this key, and what the key store holds then -/
  addKey : FilesystemKeyStore K → Except Error Unit × FilesystemKeyStore K
  /-- A key that was added is found. -/
  addKey_stored : ∀ fs, (addKey fs).1 = .ok () → (addKey fs).2.getKey (K.commitmentOf secretKey) = .ok (some secretKey)
  /-- The other keys are found as before. -/
  addKey_others : ∀ fs c, c ≠ K.commitmentOf secretKey → (addKey fs).2.getKey c = fs.getKey c
  /-- `ClientBuilder` with the keystore as its authenticator -/
  buildClient : BraleKeystore K → Except Error (AccountClient σ)

/-- What outlives a process: the key store on disk, and the store and the network behind the client. -/
structure Shared (K : EcdsaK256Keccak) (σ : Type) where
  keystore : FilesystemKeyStore K
  client : σ

/-- A client call. -/
def onClient {α : Type} (x : Op σ Error α) : Op (Shared K σ) Error α :=
  Op.zoom Shared.client (fun s c => { s with client := c }) x

/-- `keystore.inner().add_key(..)`, with what the key store holds then. -/
def storeKey (inv : Invocation K σ) : Op (Shared K σ) Error (FilesystemKeyStore K) :=
  Op.mk fun s =>
    let (r, fs) := inv.addKey s.keystore
    (r.map fun _ => fs, { s with keystore := fs })

/-- The signer of a process: it holds the key of the process only. -/
def ownSigner (sk : K.SecretKey) : ExternalSigner := (SimulatedMpcSigner.new.registerKey sk).2.toExternalSigner

/-- The part the tools have in common, up to the client. -/
def startup (inv : Invocation K σ) : Op (Shared K σ) Error (BraleKeystore K × AccountClient σ) := do
  lift inv.endpoint
  context "failed to create keystore" (lift inv.openKeystore)
  -- The source wraps the key store before it adds the key. The wrapped store reads the disk, so it has the key.
  let fsKeystore ← context "failed to store key" (storeKey inv)
  let keystore := BraleKeystore.new fsKeystore (ownSigner inv.secretKey)
  let client ← context "failed to build client" (lift (inv.buildClient keystore))
  return (keystore, client)

/-- The end of `create_account` and `deploy_issuer`. -/
def creating (op : Op σ Error Account) : Op (Shared K σ) Error (Option Account) := do
  let account ← onClient op
  return some account

/-- The end of `mint`, `transfer` and `burn`. -/
def moving (client : AccountClient σ) (op : Op σ Error Unit) : Op (Shared K σ) Error (Option Account) := do
  context "failed to sync state" (onClient client.syncState)
  onClient op
  return none

/-- What each tool does with its client. -/
def runCommand (sdk : Standards) (inv : Invocation K σ) (client : AccountClient σ) :
    Op (Shared K σ) Error (Option Account) :=
  let publicKey := K.publicKey inv.secretKey
  match inv.command with
  | .createAccount => creating (createWalletAccount client sdk publicKey .pub)
  | .deployIssuer symbol decimals maxSupply =>
    creating (deployIssuerAccount client sdk publicKey symbol decimals maxSupply)
  | .mint issuerId targetId amount => moving client (mintTokens client.toClient issuerId targetId amount.toNat)
  | .transfer senderId recipientId issuerId amount =>
    moving client (transferTokens client.toClient senderId recipientId issuerId amount.toNat)
  | .burn senderId issuerId amount => moving client (burnTokens client.toClient senderId issuerId amount.toNat)

/-- `main` of the tool, after the arguments; it returns the account it created, if any. -/
def main (sdk : Standards) (inv : Invocation K σ) : Op (Shared K σ) Error (Option Account) := do
  let (_, client) ← startup inv
  runCommand sdk inv client

section Invocations

variable {sdk : Standards} {inv : Invocation K σ} {s s' : Shared K σ} {c : PublicKeyCommitment}

/-- The keys under other commitments than that of `sk` are found as before. -/
def KeepsOthers (sk : K.SecretKey) (s s' : Shared K σ) : Prop :=
  ∀ c, c ≠ K.commitmentOf sk → s'.keystore.getKey c = s.keystore.getKey c

instance {sk : K.SecretKey} : IsPreorder (Shared K σ) (KeepsOthers sk) where
  refl _ _ _ := rfl
  trans _ _ _ h h' c hc := (h' c hc).trans (h c hc)

theorem onClient_keeps {α : Type} (x : Op σ Error α) : Keeps (Agrees (Shared.keystore (K := K))) (onClient x) :=
  fun _ => rfl

theorem creating_keeps (op : Op σ Error Account) : Keeps (Agrees (Shared.keystore (K := K))) (creating op) :=
  .bind (onClient_keeps op) fun _ => .pure _

theorem moving_keeps (client : AccountClient σ) (op : Op σ Error Unit) :
    Keeps (Agrees (Shared.keystore (K := K))) (moving client op) :=
  .bind ((onClient_keeps _).mapError _) fun _ => .bind (onClient_keeps op) fun _ => .pure _

theorem run_storeKey_ok {fs : FilesystemKeyStore K} : Op.run (storeKey inv) s = (.ok fs, s') ↔
    (inv.addKey s.keystore).1 = .ok () ∧ fs = (inv.addKey s.keystore).2 ∧
      s' = { s with keystore := (inv.addKey s.keystore).2 } := by
  rw [storeKey, Op.run_mk]
  obtain ⟨r, fs'⟩ := inv.addKey s.keystore
  cases r with
  | error e => simp [Except.map]
  | ok _ =>
    constructor
    · intro h
      cases h
      exact ⟨rfl, rfl, rfl⟩
    · intro h
      obtain ⟨-, rfl, rfl⟩ := h
      rfl

/-- It creates no account. -/
theorem moving_ne_some {client : AccountClient σ} {op : Op σ Error Unit} {account : Account} :
    Op.run (moving client op) s ≠ (.ok (some account), s') := by
  intro h
  obtain ⟨_, _, -, hrest⟩ := Op.run_bind_ok.1 h
  obtain ⟨_, _, -, hret⟩ := Op.run_bind_ok.1 hrest
  cases hret

/-- A process that came up has stored its key, and signs through a signer with this key only. -/
theorem startup_ok {keystore : BraleKeystore K} {client : AccountClient σ} :
    Op.run (startup inv) s = (.ok (keystore, client), s') ↔
      inv.endpoint = .ok () ∧ inv.openKeystore = .ok () ∧ (inv.addKey s.keystore).1 = .ok () ∧
        keystore = BraleKeystore.new (inv.addKey s.keystore).2 (ownSigner inv.secretKey) ∧
        inv.buildClient keystore = .ok client ∧ s' = { s with keystore := (inv.addKey s.keystore).2 } := by
  constructor
  · intro h
    obtain ⟨_, _, hrun, hkeystore⟩ := Op.run_bind_ok.1 h
    obtain ⟨hendpoint, rfl⟩ := run_lift_ok.1 hrun
    obtain ⟨_, _, hrun, hstore⟩ := Op.run_bind_ok.1 hkeystore
    obtain ⟨hopen, rfl⟩ := run_context_lift_ok.1 hrun
    obtain ⟨_, _, hrun, hclient⟩ := Op.run_bind_ok.1 hstore
    obtain ⟨hadd, rfl, rfl⟩ := run_storeKey_ok.1 (run_context_ok.1 hrun)
    obtain ⟨_, _, hrun, hret⟩ := Op.run_bind_ok.1 hclient
    obtain ⟨hbuild, rfl⟩ := run_context_lift_ok.1 hrun
    cases hret
    exact ⟨hendpoint, hopen, hadd, rfl, hbuild, rfl⟩
  · intro h
    obtain ⟨hendpoint, hopen, hadd, rfl, hbuild, rfl⟩ := h
    refine Op.run_bind_ok.2 ⟨_, _, run_lift_ok.2 ⟨hendpoint, rfl⟩, ?_⟩
    refine Op.run_bind_ok.2 ⟨_, _, run_context_lift_ok.2 ⟨hopen, rfl⟩, ?_⟩
    refine Op.run_bind_ok.2 ⟨_, _, run_context_ok.2 (run_storeKey_ok.2 ⟨hadd, rfl, rfl⟩), ?_⟩
    exact Op.run_bind_ok.2 ⟨_, _, run_context_lift_ok.2 ⟨hbuild, rfl⟩, rfl⟩

/-- Starting up touches no key but the one of the process. -/
theorem startup_keeps : Keeps (KeepsOthers inv.secretKey) (startup inv) := by
  have hstore : Keeps (KeepsOthers inv.secretKey) (storeKey inv) := fun s => inv.addKey_others s.keystore
  exact .bind (.ofExcept _) fun _ => .bind (Keeps.mapError (.ofExcept _) _) fun _ =>
    .bind (hstore.mapError _) fun _ => .bind (Keeps.mapError (.ofExcept _) _) fun _ => .pure _

/-- A command that moves tokens runs its operation. -/
theorem runCommand_call {call : TokenCall} (client : AccountClient σ) (h : inv.command.call = some call) :
    runCommand sdk inv client = moving client (call.op client.toClient) := by
  unfold runCommand
  cases hcommand : inv.command with
  | createAccount => rw [hcommand] at h; cases h
  | deployIssuer symbol decimals maxSupply => rw [hcommand] at h; cases h
  | mint issuerId targetId amount => rw [hcommand] at h; cases h; rfl
  | transfer senderId recipientId issuerId amount => rw [hcommand] at h; cases h; rfl
  | burn senderId issuerId amount => rw [hcommand] at h; cases h; rfl

/-- Any other command creates an account. -/
theorem runCommand_create (client : AccountClient σ) (h : inv.command.call = none) :
    ∃ op, runCommand sdk inv client = creating op := by
  unfold runCommand
  cases hcommand : inv.command with
  | createAccount => exact ⟨_, rfl⟩
  | deployIssuer symbol decimals maxSupply => exact ⟨_, rfl⟩
  | mint issuerId targetId amount => rw [hcommand] at h; cases h
  | transfer senderId recipientId issuerId amount => rw [hcommand] at h; cases h
  | burn senderId issuerId amount => rw [hcommand] at h; cases h

/-- What follows the start leaves the key store alone. -/
theorem runCommand_keeps (client : AccountClient σ) :
    Keeps (Agrees (Shared.keystore (K := K))) (runCommand sdk inv client) := by
  cases hcall : inv.command.call with
  | none =>
    obtain ⟨op, hop⟩ := runCommand_create client hcall
    rw [hop]
    exact creating_keeps op
  | some call =>
    rw [runCommand_call client hcall]
    exact moving_keeps client _

/-- An invocation touches no key but its own. -/
theorem main_keeps : Keeps (KeepsOthers inv.secretKey) (main sdk inv) :=
  .bind startup_keeps fun p => (runCommand_keeps p.2).mono fun _ _ h c _ => congrArg (·.getKey c) h

/-- An invocation that ends well came up and ran its command. -/
theorem main_steps {a : Option Account} (h : Op.run (main sdk inv) s = (.ok a, s')) :
    ∃ keystore client t, Op.run (startup inv) s = (.ok (keystore, client), t) ∧
      Op.run (runCommand sdk inv client) t = (.ok a, s') := by
  obtain ⟨⟨keystore, client⟩, t, hstart, hrest⟩ := Op.run_bind_ok.1 h
  exact ⟨keystore, client, t, hstart, hrest⟩

/-- An invocation that ends well has stored its key. -/
theorem main_ok {a : Option Account} (h : Op.run (main sdk inv) s = (.ok a, s')) :
    s'.keystore.getKey (K.commitmentOf inv.secretKey) = .ok (some inv.secretKey) := by
  obtain ⟨keystore, client, t, hstart, hrest⟩ := main_steps h
  obtain ⟨-, -, hadd, -, -, rfl⟩ := startup_ok.1 hstart
  have hkeystore : s'.keystore = (inv.addKey s.keystore).2 := (runCommand_keeps client).of_run hrest
  rw [hkeystore]
  exact inv.addKey_stored s.keystore hadd

end Invocations

/-! ## One process after the other -/

/-- The disk, and what has happened: the commitments of all keys so far, and the accounts created, with their keys. -/
structure Shell (K : EcdsaK256Keccak) (σ : Type) where
  shared : Shared K σ
  used : List PublicKeyCommitment
  created : List (Account × K.SecretKey)

/-- After one more invocation. -/
def Shell.after (sdk : Standards) (s : Shell K σ) (inv : Invocation K σ) : Shell K σ where
  shared := (Op.run (main sdk inv) s.shared).2
  used := K.commitmentOf inv.secretKey :: s.used
  created := match (Op.run (main sdk inv) s.shared).1 with
    | .ok (some account) => (account, inv.secretKey) :: s.created
    | _ => s.created

/-- Runs of the tools on one disk. Every process gets a key with a new commitment. -/
def shell (sdk : Standards) : System (Shell K σ) (Invocation K σ) where
  init s := s.used = [] ∧ s.created = []
  step s inv s' := K.commitmentOf inv.secretKey ∉ s.used ∧ s' = s.after sdk inv

/-- The key of every account created is in the key store, under a commitment that is used up. -/
structure Persisted (s : Shell K σ) : Prop where
  stored : ∀ {account sk}, (account, sk) ∈ s.created → s.shared.keystore.getKey (K.commitmentOf sk) = .ok (some sk)
  used : ∀ {account sk}, (account, sk) ∈ s.created → K.commitmentOf sk ∈ s.used

section Shell

variable {sdk : Standards} {s : Shell K σ} {inv : Invocation K σ} {account : Account} {sk : K.SecretKey}

/-- The accounts created are those before, and the one the invocation ended with. -/
theorem mem_created_after : (account, sk) ∈ (s.after sdk inv).created ↔
    ((Op.run (main sdk inv) s.shared).1 = .ok (some account) ∧ sk = inv.secretKey) ∨ (account, sk) ∈ s.created := by
  unfold Shell.after
  cases (Op.run (main sdk inv) s.shared).1 with
  | error e => simp
  | ok a =>
    cases a with
    | none => simp
    | some a => simp [eq_comm]

/-- One more invocation leaves the keys of the accounts where they are. -/
theorem Persisted.after (h : Persisted s) (hfresh : K.commitmentOf inv.secretKey ∉ s.used) :
    Persisted (s.after sdk inv) where
  stored := by
    intro account sk hmem
    obtain ⟨hok, rfl⟩ | hold := mem_created_after.1 hmem
    · exact main_ok (Prod.ext hok rfl)
    · have hne : K.commitmentOf sk ≠ K.commitmentOf inv.secretKey := fun heq => hfresh (heq ▸ h.used hold)
      have hsame : (s.after sdk inv).shared.keystore.getKey (K.commitmentOf sk) =
          s.shared.keystore.getKey (K.commitmentOf sk) := main_keeps s.shared _ hne
      rw [hsame]
      exact h.stored hold
  used := by
    intro account sk hmem
    obtain ⟨-, rfl⟩ | hold := mem_created_after.1 hmem
    · exact List.mem_cons_self
    · exact List.mem_cons_of_mem _ (h.used hold)

/-- In every reachable state the keys of the accounts created are stored. -/
theorem persisted (hs : Reachable (shell sdk) s) : Persisted s := by
  apply hs.invariant
  · intro s₀ hinit
    constructor
    · intro account sk hmem
      rw [hinit.2] at hmem
      cases hmem
    · intro account sk hmem
      rw [hinit.2] at hmem
      cases hmem
  · intro s₁ inv s₂ h hstep
    obtain ⟨hfresh, rfl⟩ := hstep
    exact h.after hfresh

end Shell

/-- The signer of a later process does not hold the key of an account created earlier. -/
theorem ownSigner_unknown {sdk : Standards} {s : Shell K σ} (hs : Reachable (shell sdk) s) {account : Account}
    {sk sk' : K.SecretKey} (hcreated : (account, sk) ∈ s.created) (hfresh : K.commitmentOf sk' ∉ s.used) :
    K.commitmentOf sk ≠ K.commitmentOf sk' ∧
      (SimulatedMpcSigner.new.registerKey sk').2.keys (K.commitmentOf sk) = none := by
  have hne : K.commitmentOf sk ≠ K.commitmentOf sk' := fun heq => hfresh (heq ▸ (persisted hs).used hcreated)
  refine ⟨hne, ?_⟩
  rw [SimulatedMpcSigner.registerKey_keys, if_neg hne]
  rfl

/-- **No later process signs.** Whatever ran before, a process that comes up gets an error from its keystore for the key
of every account created earlier, although the key is in the key store it opened, and the same keystore without the
signer would sign. -/
theorem signing_unavailable {sdk : Standards} {s : Shell K σ} (hs : Reachable (shell sdk) s) {account : Account}
    {sk : K.SecretKey} (hcreated : (account, sk) ∈ s.created) {inv : Invocation K σ}
    (hfresh : K.commitmentOf inv.secretKey ∉ s.used) {keystore : BraleKeystore K} {client : AccountClient σ}
    {t : Shared K σ} (hstart : Op.run (startup inv) s.shared = (.ok (keystore, client), t)) (inputs : SigningInputs) :
    keystore.inner.getKey (K.commitmentOf sk) = .ok (some sk) ∧
      (BraleKeystore.passthrough keystore.inner).getSignature (K.commitmentOf sk) inputs =
        .ok (K.sign sk inputs.toCommitment) ∧
      keystore.getSignature (K.commitmentOf sk) inputs =
        .error (.other s!"signing failed: unknown key commitment: {K.debugCommitment (K.commitmentOf sk)}") := by
  obtain ⟨-, -, -, rfl, -, -⟩ := startup_ok.1 hstart
  obtain ⟨hne, hunknown⟩ := ownSigner_unknown hs hcreated hfresh
  have hstored : (inv.addKey s.shared.keystore).2.getKey (K.commitmentOf sk) = .ok (some sk) := by
    rw [inv.addKey_others _ _ hne]
    exact (persisted hs).stored hcreated
  exact ⟨hstored, getSignature_passthrough.2 ⟨sk, hstored, rfl⟩, getSignature_unknown _ hunknown inputs⟩

/-! ## Deploy, then mint -/

namespace DeployMint

open TestVector

/-- The key of the second process. -/
def otherKey : sdk.SecretKey := Key.other

/-- An invocation that comes up, with a client that keeps accounts. -/
def invocation (command : Command) (sk : sdk.SecretKey) : Invocation sdk (List Account) where
  command := command
  secretKey := sk
  endpoint := .ok ()
  openKeystore := .ok ()
  addKey fs := (.ok (), addKey fs sk)
  addKey_stored _ _ := by rw [addKey_getKey, if_pos rfl]
  addKey_others _ _ hc := by rw [addKey_getKey, if_neg hc]
  buildClient _ := .ok Usdb.client

def emptyDisk : Shell sdk (List Account) := ⟨⟨⟨fun _ => .ok none⟩, []⟩, [], []⟩

def deploy : Invocation sdk (List Account) := invocation (.deployIssuer "USDB" 6 1000000000000) key

/-- After `deploy_issuer`. -/
def deployed : Shell sdk (List Account) := emptyDisk.after Usdb.sdk deploy

def issuer : Account := Usdb.account .fungibleFaucet (.basicFungibleFaucet (6, 1000000000000))

/-- `mint` to a wallet, in a process with another key. -/
def mint : Invocation sdk (List Account) := invocation (.mint issuer.id ⟨false, 2⟩ 100) otherKey

/-- The keystore of the minting process. -/
def mintKeystore : BraleKeystore sdk :=
  .new (addKey deployed.shared.keystore otherKey) (ownSigner otherKey)

theorem reachable_deployed : Reachable (shell Usdb.sdk) deployed :=
  ⟨emptyDisk, [deploy], ⟨rfl, rfl⟩, .cons ⟨List.not_mem_nil, rfl⟩ (.nil _)⟩

theorem issuer_created : (issuer, key) ∈ deployed.created := mem_created_after.2 (.inl ⟨rfl, rfl⟩)

theorem mint_fresh : sdk.commitmentOf mint.secretKey ∉ deployed.used := by decide

theorem mint_startup : Op.run (startup mint) deployed.shared = (.ok (mintKeystore, Usdb.client),
    { deployed.shared with keystore := addKey deployed.shared.keystore otherKey }) :=
  startup_ok.2 ⟨rfl, rfl, rfl, rfl, rfl, rfl⟩

end DeployMint

open TestVector DeployMint in
/-- The process of `mint` comes up, has the issuer's key in its key store, and gets no signature for it. -/
theorem mint_after_deploy : Reachable (shell Usdb.sdk) deployed ∧ (issuer, key) ∈ deployed.created ∧
    sdk.commitmentOf mint.secretKey ∉ deployed.used ∧
    (∃ t, Op.run (startup mint) deployed.shared = (.ok (mintKeystore, Usdb.client), t)) ∧
    mintKeystore.inner.getKey (sdk.commitmentOf key) = .ok (some key) ∧
    ∀ inputs sig, mintKeystore.getSignature (sdk.commitmentOf key) inputs ≠ .ok sig := by
  refine ⟨reachable_deployed, issuer_created, mint_fresh, ⟨_, mint_startup⟩, rfl, ?_⟩
  intro inputs sig hsig
  have hunknown := (ownSigner_unknown reachable_deployed issuer_created mint_fresh).2
  have hrefused : mintKeystore.getSignature (sdk.commitmentOf key) inputs = .error _ :=
    getSignature_unknown _ hunknown inputs
  rw [hrefused] at hsig
  cases hsig

open TestVector DeployMint in
/-- The minting process has the issuer's key in its key store. -/
theorem mint_unavailable : mintKeystore.inner.getKey (sdk.commitmentOf key) = .ok (some key) ∧
    (BraleKeystore.passthrough mintKeystore.inner).getSignature (sdk.commitmentOf key) ⟨commitment⟩ =
      .ok (sdk.sign key commitment) ∧
    mintKeystore.getSignature (sdk.commitmentOf key) ⟨commitment⟩ = .error (.other
      ("signing failed: unknown key commitment: " ++ sdk.debugCommitment (sdk.commitmentOf key))) :=
  signing_unavailable reachable_deployed issuer_created mint_fresh mint_startup ⟨commitment⟩

/-! ## Whose key an account has -/

/-- The id of an account determines the key it was built with. -/
def KeyedIds (sdk : Standards) (authKey : AccountId → PublicKeyCommitment) : Prop :=
  ∀ {seed ty mode component com account}, sdk.build seed ty mode component com = .ok account → authKey account.id = com

end BraleMiden.Bin
