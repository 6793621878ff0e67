import BraleMiden.Bin.FullDemo

/-!
# What the tools can move

The seven tools on one chain: `create_account`, `deploy_issuer`, `mint`, `transfer`, `burn`, and `read_balance` and
`read_supply`, which start like the others and only read. Every process signs with a fresh key. Others use the chain
too, for accounts of their own, and blocks come at any time (`desk`).

* `passive_keeps`: a process changes nothing on a chain where no account has its key;
* `DeskInv.step`: the accounts that the tools have created stay idle;
* `tools_move_nothing`: whole runs of the tools, and what the readers print in them.
-/

namespace BraleMiden.Bin

open Effects Systems

variable {K : EcdsaK256Keccak} {σ : Type}

/-! ## The readers -/

/-- What is read, with the parsed arguments. -/
inductive Reading
  | balance (accountId issuerId : AccountId)
  | supply (issuerId : AccountId)
deriving DecidableEq, Repr

/-- The line that `read_balance` or `read_supply` prints. -/
def readLine (c : Client σ) : Reading → Op σ Error String
  | .balance accountId issuerId => do
    let balance ← readBalance c accountId issuerId
    return s!"Account {accountId} balance: {balance}"
  | .supply issuerId => do
    let totalSupply ← readTotalSupply c issuerId
    return s!"Issuer {issuerId} total supply: {totalSupply}"

/-- `main` of `read_balance` and `read_supply`, after the arguments. There is no sync. -/
def readerMain (inv : Invocation K σ) (what : Reading) : Op (Shared K σ) Error String := do
  let (_, client) ← startup inv
  onClient (readLine client.toClient what)

/-! ## The tools on a chain -/

/-- The client that the process builds is one of the chain, and signs with the key store of the process. -/
def OnChain (P : Params) (me : ClientId) (authKey : AccountId → PublicKeyCommitment)
    (inv : Invocation K (Session Chain)) : Prop :=
  ∀ fs client, inv.buildClient (.new fs (ownSigner inv.secretKey)) = .ok client → ∃ env seeds inputs,
    client = (accountClient P me env seeds).authenticated ⟨.new fs (ownSigner inv.secretKey), authKey, inputs⟩

/-- The disk and the chain, the commitments of all keys so far, and the accounts that the tools have created. -/
structure Desk (K : EcdsaK256Keccak) where
  shared : Shared K (Session Chain)
  used : List PublicKeyCommitment
  created : List AccountId

namespace Desk

def chain (s : Desk K) : Chain := s.shared.client.state

/-- The desk with another chain state. -/
def withChain (s : Desk K) (c : Chain) : Desk K :=
  { s with shared := { s.shared with client := ⟨c, s.shared.client.calls⟩ } }

end Desk

/-- A tool is run, or somebody else acts. -/
inductive DeskEvent (K : EcdsaK256Keccak)
  | tool (inv : Invocation K (Session Chain))
  | reader (inv : Invocation K (Session Chain)) (what : Reading)
  | outside (creator : ClientId) (account : AccountId) (request : TransactionRequest)
  | join (account : Account)
  | block (incl : NoteId → Bool)

/-- The account in the result of a tool. -/
def createdBy : Except Error (Option Account) → List AccountId
  | .ok (some account) => [account.id]
  | _ => []

/-- Every process has a key that no account and no earlier process has. The others act for accounts of their own. -/
def deskStep (P : Params) (me : ClientId) (sdk : Standards) (authKey : AccountId → PublicKeyCommitment) (s : Desk K)
    (ev : DeskEvent K) (s' : Desk K) : Prop :=
  match ev with
  | .tool inv => K.commitmentOf inv.secretKey ∉ s.used ∧ OnChain P me authKey inv ∧ ∃ r shared,
      Op.run (main sdk inv) s.shared = (r, shared) ∧
        s' = ⟨shared, K.commitmentOf inv.secretKey :: s.used, createdBy r ++ s.created⟩
  | .reader inv what => K.commitmentOf inv.secretKey ∉ s.used ∧ OnChain P me authKey inv ∧ ∃ r shared,
      Op.run (readerMain inv what) s.shared = (r, shared) ∧
        s' = ⟨shared, K.commitmentOf inv.secretKey :: s.used, s.created⟩
  | .outside creator a req => a ∉ s.created ∧ ∃ c, s.chain.submit P creator a req = .ok c ∧ s' = s.withChain c
  | .join account => ∃ c, s.chain.addAccount account false = .ok c ∧
      s' = { s.withChain c with used := authKey account.id :: s.used }
  | .block incl => s' = s.withChain (s.chain.produceBlock incl)

/-- All runs of the tools, on a chain without accounts. -/
def desk (P : Params) (me : ClientId) (sdk : Standards) (authKey : AccountId → PublicKeyCommitment) :
    System (Desk K) (DeskEvent K) where
  init s := Fresh P s.chain ∧ s.chain.accounts = ∅ ∧ s.created = []
  step := deskStep P me sdk authKey

/-! ## A process without keys -/

/-- On a chain where no account has the key, there is only a sync. -/
def Passive (authKey : AccountId → PublicKeyCommitment) (com : PublicKeyCommitment) (s s' : Chain) : Prop :=
  (∀ X ∈ s.accounts, authKey X ≠ com) → Chain.Synced s s'

instance {authKey : AccountId → PublicKeyCommitment} {com : PublicKeyCommitment} :
    IsPreorder Chain (Passive authKey com) where
  refl s _ := refl s
  trans s₁ s₂ s₃ h h' hnone := by
    have hs := h hnone
    refine trans_of Chain.Synced hs (h' ?_)
    intro X hX
    exact hnone X (hs.accounts ▸ hX)

section Process

variable {P : Params} {me : ClientId} {sdk : Standards} {authKey : AccountId → PublicKeyCommitment} {env : Env}
  {seeds : ℕ → Vector UInt8 32} {inputs : AccountId → TransactionRequest → Session Chain → SigningInputs}
  {fs : FilesystemKeyStore K} {sk : K.SecretKey} {inv : Invocation K (Session Chain)}

/-- The client of a process with the key `sk` on the chain. -/
def processClient (P : Params) (me : ClientId) (env : Env) (seeds : ℕ → Vector UInt8 32) (fs : FilesystemKeyStore K)
    (sk : K.SecretKey) (authKey : AccountId → PublicKeyCommitment)
    (inputs : AccountId → TransactionRequest → Session Chain → SigningInputs) : AccountClient (Session Chain) :=
  (accountClient P me env seeds).authenticated ⟨.new fs (ownSigner sk), authKey, inputs⟩

/-- The process has no transaction accepted for an account with another key. -/
theorem processClient_submit {a : AccountId} {req : TransactionRequest} {s s' : Session Chain}
    (h : Op.run ((processClient P me env seeds fs sk authKey inputs).submitNewTransaction a req) s = (.ok (), s')) :
    authKey a = K.commitmentOf sk ∧ a ∈ s.state.accounts := by
  obtain ⟨⟨sig, hsig⟩, hsubmit⟩ := submit_authenticated_ok.1 h
  constructor
  · by_contra hne
    have hunknown : (SimulatedMpcSigner.new.registerKey sk).2.keys (authKey a) = none := by
      rw [SimulatedMpcSigner.registerKey_keys, if_neg hne]
      rfl
    have hrefused := getSignature_unknown fs hunknown (inputs a req s)
    rw [ownSigner, hrefused] at hsig
    cases hsig
  · rw [accountClient_toClient, chainClient_submitNewTransaction_ok] at hsubmit
    obtain ⟨-, c, hs, -⟩ := hsubmit
    exact (Chain.submit_accounts hs).1

/-- **A process changes nothing on a chain where no account has its key.** -/
theorem passive_keeps :
    (processClient P me env seeds fs sk authKey inputs).Keeps (OnState (Passive authKey (K.commitmentOf sk))) where
  syncState := Env.call_keeps fun h _ => by
    cases h
    exact Chain.synced_sync _ _
  getConsumableNotes _ := Env.read_keeps _
  createBurnNote _ _ _ := Env.read_keeps _
  buildMintFungibleAsset _ _ _ := Env.read_keeps _
  buildPayToId _ _ := Env.consult_keeps _
  buildOwnOutputNotes _ := Env.read_keeps _
  buildConsumeNotes _ := Env.read_keeps _
  submitNewTransaction a req s := by
    intro hnone
    cases hrun : Op.run ((processClient P me env seeds fs sk authKey inputs).submitNewTransaction a req) s with
    | mk r s' =>
      cases r with
      | ok u =>
        obtain ⟨hkey, ha⟩ := processClient_submit hrun
        exact absurd hkey (hnone a ha)
      | error e =>
        have hclient : KeepsOnError (OnState Eq) ((accountClient P me env seeds).submitNewTransaction a req) :=
          chainClient_submitFailsKeep.submitNewTransaction a req
        have hsame : s.state = s'.state := submit_authenticated_keepsOnError hclient s s' e hrun
        show Chain.Synced s.state s'.state
        rw [← hsame]
        exact refl _

/-! ### One run of a tool -/

/-- A process syncs at most, or it ends well with a new account that has its key. -/
def Leaves (authKey : AccountId → PublicKeyCommitment) (com : PublicKeyCommitment) (s s' : Chain)
    (r : Except Error (Option Account)) : Prop :=
  (Chain.Synced s s' ∧ createdBy r = []) ∨
    ∃ account, r = .ok (some account) ∧ authKey account.id = com ∧ s.addAccount account false = .ok s'

theorem run_onClient {α : Type} {x : Op σ Error α} {s s' : Shared K σ} {r : Except Error α}
    (h : Op.run (onClient x) s = (r, s')) : Op.run x s.client = (r, s'.client) ∧ s'.keystore = s.keystore := by
  obtain ⟨c, hc, rfl⟩ := Op.run_zoom.1 h
  exact ⟨hc, rfl⟩

/-- A start leaves the client's state alone. -/
theorem startup_client {s s' : Shared K σ} {inv : Invocation K σ} {r : Except Error (BraleKeystore K × AccountClient σ)}
    (h : Op.run (startup inv) s = (r, s')) : s'.client = s.client := by
  have hstore : Keeps (Agrees (Shared.client (K := K) (σ := σ))) (storeKey inv) := fun _ => rfl
  have hkeeps : Keeps (Agrees (Shared.client (K := K) (σ := σ))) (startup inv) :=
    .bind (.ofExcept _) fun _ => .bind (Keeps.mapError (.ofExcept _) _) fun _ => .bind (hstore.mapError _) fun _ =>
      .bind (Keeps.mapError (.ofExcept _) _) fun _ => .pure _
  exact hkeeps.of_run h

theorem creating_leaves {com : PublicKeyCommitment} {op : Op (Session Chain) Error Account}
    (herror : KeepsOnError (OnState Eq) op)
    (hok : ∀ {s s' account}, Op.run op s = (.ok account, s') →
      authKey account.id = com ∧ s.state.addAccount account false = .ok s'.state)
    {s s' : Shared K (Session Chain)} {r : Except Error (Option Account)} (h : Op.run (creating op) s = (r, s')) :
    Leaves authKey com s.client.state s'.client.state r := by
  unfold creating at h
  cases r with
  | ok a =>
    obtain ⟨account, t, hrun, hret⟩ := Op.run_bind_ok.1 h
    cases hret
    obtain ⟨hkey, hadd⟩ := hok (run_onClient hrun).1
    exact .inr ⟨account, rfl, hkey, hadd⟩
  | error e =>
    rcases Op.run_bind_error.1 h with hrun | ⟨account, t, -, hret⟩
    · have hsame : s.client.state = s'.client.state := herror _ _ _ (run_onClient hrun).1
      exact .inl ⟨hsame ▸ refl _, rfl⟩
    · cases hret

theorem moving_leaves {com : PublicKeyCommitment} {client : AccountClient (Session Chain)} {call : TokenCall}
    (hk : client.Keeps (OnState (Passive authKey com))) {s s' : Shared K (Session Chain)}
    {r : Except Error (Option Account)} (hnone : ∀ X ∈ s.client.state.accounts, authKey X ≠ com)
    (h : Op.run (moving client (call.op client.toClient)) s = (r, s')) :
    Leaves authKey com s.client.state s'.client.state r := by
  let R : Shared K (Session Chain) → Shared K (Session Chain) → Prop := fun s s' =>
    Passive authKey com s.client.state s'.client.state
  have hpre : IsPreorder (Shared K (Session Chain)) R :=
    { refl := fun s => refl (r := Passive authKey com) s.client.state
      trans := fun s t u h h' => trans_of (Passive authKey com) h h' }
  have hon : ∀ {α : Type} {x : Op (Session Chain) Error α}, Keeps (OnState (Passive authKey com)) x →
      Keeps R (onClient (K := K) x) := fun hx s => hx s.client
  have hmoving : Keeps R (moving (K := K) client (call.op client.toClient)) :=
    .bind ((hon hk.syncState).mapError _) fun _ => .bind (hon (call.op_keeps hk)) fun _ => .pure _
  refine .inl ⟨hmoving.of_run h hnone, ?_⟩
  cases r with
  | error e => rfl
  | ok a =>
    cases a with
    | none => rfl
    | some account => exact absurd h moving_ne_some

theorem run_addAccount_process {account : Account} {s s' : Session Chain}
    (h : Op.run ((processClient P me env seeds fs sk authKey inputs).addAccount account false) s = (.ok (), s')) :
    s.state.addAccount account false = .ok s'.state := by
  have hadd : Op.run ((accountClient P me env seeds).addAccount account false) s = (.ok (), s') := h
  obtain ⟨-, c, hc, rfl⟩ := Chain.run_addAccount_ok.1 hadd
  exact hc

theorem addAccount_process_error {account : Account} : KeepsOnError (OnState Eq)
    ((processClient P me env seeds fs sk authKey inputs).addAccount account false) := by
  intro s s' e h
  have hadd : Op.run (env.call fun _ s => (s.addAccount account false).map fun c => ((), c)) s = (.error e, s') := h
  exact (Env.run_call_error hadd).symm

/-- What the command of a process that came up can do. -/
theorem runCommand_leaves (hkeys : KeyedIds sdk authKey) {s s' : Shared K (Session Chain)}
    (hnone : ∀ X ∈ s.client.state.accounts, authKey X ≠ K.commitmentOf inv.secretKey)
    {r : Except Error (Option Account)}
    (h : Op.run (runCommand sdk inv (processClient P me env seeds fs inv.secretKey authKey inputs)) s = (r, s')) :
    Leaves authKey (K.commitmentOf inv.secretKey) s.client.state s'.client.state r := by
  have hseed : Keeps (OnState Eq) (initSeed (processClient P me env seeds fs inv.secretKey authKey inputs)) :=
    fun _ => rfl
  have hadd : ∀ account, KeepsOnError (OnState Eq)
      ((processClient P me env seeds fs inv.secretKey authKey inputs).addAccount account false) :=
    fun _ => addAccount_process_error
  cases hcall : inv.command.call with
  | some call =>
    rw [runCommand_call _ hcall] at h
    exact moving_leaves passive_keeps hnone h
  | none =>
    unfold runCommand at h
    cases hcommand : inv.command with
    | createAccount =>
      rw [hcommand] at h
      refine creating_leaves (createWalletAccount_keepsOnError hseed hadd) ?_ h
      intro u u' account hrun
      obtain ⟨hbuild, hadded⟩ := run_createWalletAccount_ok.1 hrun
      exact ⟨hkeys hbuild, run_addAccount_process hadded⟩
    | deployIssuer symbol decimals maxSupply =>
      rw [hcommand] at h
      refine creating_leaves (deployIssuerAccount_keepsOnError hseed hadd) ?_ h
      intro u u' account hrun
      obtain ⟨_, _, -, -, hbuild, hadded⟩ := run_deployIssuerAccount_ok.1 hrun
      exact ⟨hkeys hbuild, run_addAccount_process hadded⟩
    | mint issuerId targetId amount =>
      rw [hcommand] at hcall
      cases hcall
    | transfer senderId recipientId issuerId amount =>
      rw [hcommand] at hcall
      cases hcall
    | burn senderId issuerId amount =>
      rw [hcommand] at hcall
      cases hcall

/-- A tool that moves tokens does not end well when no account has the key of its process. -/
theorem moving_ne_ok {call : TokenCall} {s s' : Shared K (Session Chain)} {a : Option Account}
    (hnone : ∀ X ∈ s.client.state.accounts, authKey X ≠ K.commitmentOf sk) :
    Op.run (moving (processClient P me env seeds fs sk authKey inputs)
      (call.op (processClient P me env seeds fs sk authKey inputs).toClient)) s ≠ (.ok a, s') := by
  intro h
  obtain ⟨_, u, hsync, hrest⟩ := Op.run_bind_ok.1 h
  obtain ⟨_, v, hop, -⟩ := Op.run_bind_ok.1 hrest
  have hearly : Passive authKey (K.commitmentOf sk) s.client.state u.client.state :=
    passive_keeps.syncState.of_run (run_onClient (run_context_ok.1 hsync)).1
  obtain ⟨x, hx⟩ : ∃ x, x ∈ call.authorisers := by
    cases call <;> exact ⟨_, List.mem_cons_self⟩
  obtain ⟨req, s₁, s₂, hlate, hsubmit⟩ := TokenCall.submits_from passive_keeps (run_onClient hop).1 x hx
  obtain ⟨hkey, hmem⟩ := processClient_submit hsubmit
  have hsame := (trans_of (Passive authKey (K.commitmentOf sk)) hearly hlate hnone).accounts
  exact hnone x (hsame ▸ hmem) hkey

/-- A process that came up has a client of the chain, in the state it started in. -/
theorem startup_process (hchain : OnChain P me authKey inv) {s t : Shared K (Session Chain)}
    {keystore : BraleKeystore K} {client : AccountClient (Session Chain)}
    (h : Op.run (startup inv) s = (.ok (keystore, client), t)) :
    t.client = s.client ∧ ∃ env seeds inputs,
      client = processClient P me env seeds (inv.addKey s.keystore).2 inv.secretKey authKey inputs := by
  obtain ⟨-, -, -, rfl, hbuild, rfl⟩ := startup_ok.1 h
  exact ⟨rfl, hchain _ _ hbuild⟩

/-- **All that a tool can do to the chain.** -/
theorem main_leaves (hkeys : KeyedIds sdk authKey) (hchain : OnChain P me authKey inv) {s s' : Shared K (Session Chain)}
    (hnone : ∀ X ∈ s.client.state.accounts, authKey X ≠ K.commitmentOf inv.secretKey)
    {r : Except Error (Option Account)} (h : Op.run (main sdk inv) s = (r, s')) :
    Leaves authKey (K.commitmentOf inv.secretKey) s.client.state s'.client.state r := by
  cases hstart : Op.run (startup inv) s with
  | mk q t =>
    have hclient : t.client = s.client := startup_client hstart
    rw [← hclient] at hnone ⊢
    cases q with
    | error e =>
      unfold main at h
      rw [Op.run_bind_of_error hstart] at h
      cases h
      exact .inl ⟨refl _, rfl⟩
    | ok p =>
      obtain ⟨keystore, client⟩ := p
      unfold main at h
      rw [Op.run_bind_of_ok hstart] at h
      obtain ⟨-, env, seeds, inputs, rfl⟩ := startup_process hchain hstart
      exact runCommand_leaves hkeys hnone h

/-! ### One run of a reader -/

theorem readLine_state {c : Client (Session Chain)} {what : Reading} (hget : ∀ a, Keeps (OnState Eq) (c.getAccount a)) :
    Keeps (OnState Eq) (readLine c what) := by
  have hfull : ∀ a failed missing tracked, Keeps (OnState Eq) (fullAccount c a failed missing tracked) := by
    intro a failed missing tracked
    refine .bind ((hget a).mapError _) fun record => .bind (.ofExcept _) fun data => ?_
    cases data with
    | full account => exact .pure account
    | partialData => exact .throw _
  cases what with
  | balance a i => exact .bind (.bind (hfull _ _ _ _) fun _ => Keeps.mapError (.ofExcept _) _) fun _ => .pure _
  | supply i =>
    exact .bind (.bind (hfull _ _ _ _) fun _ => .bind (Keeps.mapError (.ofExcept _) _) fun _ => .pure _) fun _ =>
      .pure _

/-- The account that is read. -/
def Reading.account : Reading → AccountId
  | .balance accountId _ => accountId
  | .supply issuerId => issuerId

/-- The line for an account that has nothing. -/
def Reading.zeroLine : Reading → String
  | .balance accountId _ =>
    let balance := 0
    s!"Account {accountId} balance: {balance}"
  | .supply issuerId =>
    let totalSupply : UInt64 := 0
    s!"Issuer {issuerId} total supply: {totalSupply}"

/-- A reader prints zero for an idle account. -/
theorem readLine_idle {what : Reading} {s s' : Session Chain} {line : String} (hidle : s.state.Idle what.account)
    (h : Op.run (readLine (chainClient P me env) what) s = (.ok line, s')) : line = what.zeroLine := by
  cases what with
  | balance a i =>
    obtain ⟨n, t, hread, hret⟩ := Op.run_bind_ok.1 h
    obtain ⟨acc, u, hfull, hbalance⟩ := Op.run_bind_ok.1 hread
    obtain ⟨rfl, -⟩ := run_fullAccount_ok hfull
    obtain ⟨hget, rfl⟩ := run_context_lift_ok.1 hbalance
    have hzero : n = 0 := by
      have hvault : s.state.vault a = 0 := hidle.vault
      simp only [Chain.account, hvault, Pi.zero_apply] at hget
      split at hget
      · cases hget
        rfl
      · cases hget
    cases hret
    subst hzero
    rfl
  | supply i =>
    obtain ⟨n, t, hread, hret⟩ := Op.run_bind_ok.1 h
    obtain ⟨acc, u, hfull, hrest⟩ := Op.run_bind_ok.1 hread
    obtain ⟨rfl, -⟩ := run_fullAccount_ok hfull
    obtain ⟨word, v, hslot, hword⟩ := Op.run_bind_ok.1 hrest
    obtain ⟨hget, rfl⟩ := run_context_lift_ok.1 hslot
    have hissuance : s.state.issuance i = 0 := hidle.issuance
    simp only [Chain.account, hissuance] at hget
    split at hget
    · cases hget
      cases hword
      cases hret
      have hzero : (P.sysdata 0)[0].asInt = 0 := by
        apply UInt64.toNat_inj.1
        rw [P.sysdata_first (Nat.zero_le _), Params.supplyRead, ite_self]
        rfl
      rw [hzero]
      rfl
    · cases hget

/-- A reader changes nothing on the chain. -/
theorem readerMain_state {s s' : Shared K (Session Chain)} {what : Reading} {r : Except Error String}
    (hchain : OnChain P me authKey inv) (h : Op.run (readerMain inv what) s = (r, s')) :
    s'.client.state = s.client.state := by
  cases hstart : Op.run (startup inv) s with
  | mk q t =>
    have hclient : t.client = s.client := startup_client hstart
    rw [← hclient]
    cases q with
    | error e =>
      unfold readerMain at h
      rw [Op.run_bind_of_error hstart] at h
      cases h
      rfl
    | ok p =>
      obtain ⟨keystore, client⟩ := p
      unfold readerMain at h
      rw [Op.run_bind_of_ok hstart] at h
      obtain ⟨-, env, seeds, inputs, rfl⟩ := startup_process hchain hstart
      have hread : Keeps (OnState Eq) (readLine (accountClient P me env seeds).toClient what) :=
        readLine_state fun _ => Env.read_keeps _
      have hsame : t.client.state = s'.client.state := hread.of_run (run_onClient h).1
      exact hsame.symm

end Process

/-! ## Whole runs -/

section Desk

variable {P : Params} {me : ClientId} {sdk : Standards} {authKey : AccountId → PublicKeyCommitment} {s s' : Desk K}
  {ev : DeskEvent K} {inv : Invocation K (Session Chain)}

/-- The keys of all accounts are used up, and what the tools have created is idle. -/
structure DeskInv (authKey : AccountId → PublicKeyCommitment) (s : Desk K) : Prop where
  known : ∀ X ∈ s.chain.accounts, authKey X ∈ s.used
  unknown : ∀ X ∉ s.chain.accounts, s.chain.Idle X
  created : ∀ X ∈ s.created, X ∈ s.chain.accounts ∧ s.chain.Idle X

/-- A new key is that of no account. -/
theorem DeskInv.fresh (h : DeskInv authKey s) {com : PublicKeyCommitment} (hfresh : com ∉ s.used) :
    ∀ X ∈ s.chain.accounts, authKey X ≠ com := by
  rintro X hX rfl
  exact hfresh (h.known X hX)

theorem DeskInv.synced (h : DeskInv authKey s) (hs : Chain.Synced s.chain s'.chain) (hused : s.used ⊆ s'.used)
    (hcreated : s'.created = s.created) : DeskInv authKey s' where
  known X hX := by
    rw [hs.accounts] at hX
    exact hused (h.known X hX)
  unknown X hX := by
    rw [hs.accounts] at hX
    exact (h.unknown X hX).synced hs
  created X hX := by
    rw [hcreated] at hX
    rw [hs.accounts]
    exact ⟨(h.created X hX).1, (h.created X hX).2.synced hs⟩

/-- A new account has nothing, whoever has created it. -/
theorem DeskInv.add (h : DeskInv authKey s) {account : Account} (hs : s.chain.addAccount account false = .ok s'.chain)
    (hused : s'.used = authKey account.id :: s.used)
    (hcreated : ∀ X ∈ s'.created, X = account.id ∨ X ∈ s.created) : DeskInv authKey s' := by
  obtain ⟨hnew, hs'⟩ := Chain.addAccount_ok.1 hs
  have hacc : s'.chain.accounts = insert account.id s.chain.accounts := by rw [hs']
  refine ⟨?_, ?_, ?_⟩
  · intro X hX
    rw [hused]
    rw [hacc, Finset.mem_insert] at hX
    rcases hX with rfl | hX
    · exact List.mem_cons_self
    · exact List.mem_cons_of_mem _ (h.known X hX)
  · intro X hX
    rw [hacc, Finset.mem_insert, not_or] at hX
    exact (h.unknown X hX.2).addAccount hs
  · intro X hX
    rw [hacc, Finset.mem_insert]
    rcases hcreated X hX with rfl | hold
    · exact ⟨.inl rfl, (h.unknown _ hnew).addAccount hs⟩
    · exact ⟨.inr (h.created X hold).1, (h.created X hold).2.addAccount hs⟩

theorem DeskInv.step (hkeys : KeyedIds sdk authKey) (h : DeskInv authKey s)
    (hs : deskStep P me sdk authKey s ev s') : DeskInv authKey s' := by
  cases ev with
  | tool inv =>
    obtain ⟨hfresh, hchain, r, shared, hrun, rfl⟩ := hs
    rcases main_leaves hkeys hchain (h.fresh hfresh) hrun with ⟨hsync, hnone⟩ | ⟨account, rfl, hkey, hadd⟩
    · exact h.synced hsync (List.subset_cons_self _ _) (by rw [hnone]; rfl)
    · refine h.add hadd (by rw [hkey]) ?_
      intro X hX
      rcases List.mem_append.1 hX with hX | hX
      · exact .inl (List.mem_singleton.1 hX)
      · exact .inr hX
  | reader inv what =>
    obtain ⟨hfresh, hchain, r, shared, hrun, rfl⟩ := hs
    have hsame : shared.client.state = s.chain := readerMain_state hchain hrun
    refine h.synced ?_ (List.subset_cons_self _ _) rfl
    show Chain.Synced s.chain shared.client.state
    rw [hsame]
    exact refl _
  | outside creator a req =>
    obtain ⟨ha, c, hsub, rfl⟩ := hs
    obtain ⟨hmem, hacc⟩ := Chain.submit_accounts hsub
    refine ⟨?_, ?_, ?_⟩
    · intro X hX
      exact h.known X (hacc ▸ hX)
    · intro X hX
      have hX' : X ∉ s.chain.accounts := fun hin => hX (hacc.symm ▸ hin)
      exact (h.unknown X hX').submit (fun heq => hX' (heq ▸ hmem)) hsub
    · intro X hX
      have hne : X ≠ a := fun heq => ha (heq ▸ hX)
      exact ⟨hacc ▸ (h.created X hX).1, (h.created X hX).2.submit hne hsub⟩
  | join account =>
    obtain ⟨c, hadd, rfl⟩ := hs
    exact h.add hadd rfl fun X hX => .inr hX
  | block incl =>
    cases hs
    exact h.synced (Chain.synced_sync s.chain (some incl)) (List.Subset.refl _) rfl

theorem deskInv_of_reachable (hkeys : KeyedIds sdk authKey) (hs : Reachable (desk P me sdk authKey) s) :
    DeskInv authKey s := by
  refine hs.invariant ?_ fun h hstep => h.step hkeys hstep
  rintro s₀ ⟨hfresh, hacc, hcreated⟩
  refine ⟨?_, ?_, ?_⟩
  · intro X hX
    rw [hacc] at hX
    exact absurd hX (Finset.notMem_empty X)
  · intro X _
    exact ⟨by rw [hfresh.issuance]; rfl, by rw [hfresh.vault]; rfl⟩
  · intro X hX
    rw [hcreated] at hX
    exact absurd hX List.not_mem_nil

/-- **The tools move nothing.** In every run of the seven tools, each process with a fresh key, and whatever others do
on the chain for accounts of their own: no account that the tools have created has ever issued or received anything,
the next `mint`, `transfer` or `burn` does not end well for any accounts, and a reader that ends well for an account of
the tools prints zero. -/
theorem tools_move_nothing (hkeys : KeyedIds sdk authKey) (hs : Reachable (desk P me sdk authKey) s) :
    (∀ X ∈ s.created, X ∈ s.chain.accounts ∧ s.chain.issuance X = 0 ∧ s.chain.vault X = 0) ∧
      ∀ inv : Invocation K (Session Chain), K.commitmentOf inv.secretKey ∉ s.used → OnChain P me authKey inv →
        (∀ call, inv.command.call = some call → ∀ a t, Op.run (main sdk inv) s.shared ≠ (.ok a, t)) ∧
          ∀ what : Reading, what.account ∈ s.created → ∀ line t,
            Op.run (readerMain inv what) s.shared = (.ok line, t) → line = what.zeroLine := by
  have hinv := deskInv_of_reachable hkeys hs
  refine ⟨?_, ?_⟩
  · intro X hX
    obtain ⟨hmem, hidle⟩ := hinv.created X hX
    exact ⟨hmem, hidle.issuance, hidle.vault⟩
  · intro inv hfresh hchain
    constructor
    · intro call hcall a t hrun
      obtain ⟨keystore, client, u, hstart, hrest⟩ := main_steps hrun
      obtain ⟨hclient, env, seeds, inputs, rfl⟩ := startup_process hchain hstart
      rw [runCommand_call _ hcall] at hrest
      refine moving_ne_ok ?_ hrest
      rw [hclient]
      exact hinv.fresh hfresh
    · intro what hwhat line t hrun
      obtain ⟨⟨keystore, client⟩, u, hstart, hrest⟩ := Op.run_bind_ok.1 hrun
      obtain ⟨hclient, env, seeds, inputs, rfl⟩ := startup_process hchain hstart
      have hread : Op.run (readLine (chainClient P me env) what) u.client = (.ok line, t.client) :=
        (run_onClient hrest).1
      refine readLine_idle ?_ hread
      rw [hclient]
      exact (hinv.created _ hwhat).2

end Desk

/-! ## Deploy, then mint and read -/

namespace DeployRead

open TestVector FullDemo.Sample

theorem addKey_stored (sk : sdk.SecretKey) (fs : FilesystemKeyStore sdk) (_ : (.ok () : Except Error Unit) = .ok ()) :
    (addKey fs sk).getKey (sdk.commitmentOf sk) = .ok (some sk) := by rw [addKey_getKey, if_pos rfl]

theorem addKey_others (sk : sdk.SecretKey) (fs : FilesystemKeyStore sdk) (c : PublicKeyCommitment)
    (hc : c ≠ sdk.commitmentOf sk) : (addKey fs sk).getKey c = fs.getKey c := by rw [addKey_getKey, if_neg hc]

/-- An invocation that comes up, with a client of the protocol's chain. -/
def invocation (command : Command) (sk : sdk.SecretKey) : Invocation sdk (Session Chain) where
  command := command
  secretKey := sk
  endpoint := .ok ()
  openKeystore := .ok ()
  addKey fs := (.ok (), addKey fs sk)
  addKey_stored := addKey_stored sk
  addKey_others := addKey_others sk
  buildClient keystore := .ok (client (.steady none) keystore)

theorem invocation_onChain (command : Command) (sk : sdk.SecretKey) :
    OnChain .protocol 0 authKey (invocation command sk) := by
  intro fs c h
  cases h
  exact ⟨_, _, _, rfl⟩

def emptyDesk : Desk sdk := ⟨⟨⟨fun _ => .ok none⟩, ⟨genesis ∅ fun _ => 0, 0⟩⟩, [], []⟩

def deploy : Invocation sdk (Session Chain) := invocation (.deployIssuer "USDB" 6 1000000000000) Key.testOnly

def issuer : AccountId := ⟨true, 0⟩

/-- After `deploy_issuer`. -/
def deployed : Desk sdk :=
  let run := Op.run (main standards deploy) emptyDesk.shared
  ⟨run.2, [sdk.commitmentOf deploy.secretKey], createdBy run.1 ++ []⟩

theorem reachable_deployed : Reachable (desk .protocol 0 standards authKey) deployed := by
  have hstart : Reachable (desk (K := sdk) .protocol 0 standards authKey) emptyDesk :=
    ⟨emptyDesk, [], ⟨fresh_genesis fun _ => Nat.zero_le _, rfl, rfl⟩, .nil _⟩
  exact hstart.step (l := .tool deploy) ⟨List.not_mem_nil, invocation_onChain _ _, _, _, rfl, rfl⟩

end DeployRead

open TestVector FullDemo.Sample DeployRead in
/-- After `deploy_issuer`, `mint` does not end well, and `read_supply` prints zero if it does. -/
theorem deployed_idle : issuer ∈ deployed.created ∧ deployed.chain.issuance issuer = 0 ∧
    (∀ a t, Op.run (main standards (invocation (.mint issuer ⟨false, 2⟩ 100) Key.other)) deployed.shared ≠ (.ok a, t)) ∧
    ∀ line t,
      Op.run (readerMain (invocation .createAccount Key.other) (.supply issuer)) deployed.shared = (.ok line, t) →
        line = "Issuer faucet:0 total supply: 0" := by
  have hmem : issuer ∈ deployed.created := by decide
  have hfresh : sdk.commitmentOf Key.other ∉ deployed.used := by decide
  obtain ⟨hcreated, hnext⟩ := tools_move_nothing standards_keyed reachable_deployed
  obtain ⟨-, hissuance, -⟩ := hcreated issuer hmem
  refine ⟨hmem, hissuance, ?_, ?_⟩
  · exact (hnext _ hfresh (invocation_onChain _ _)).1 _ rfl
  · exact (hnext _ hfresh (invocation_onChain _ _)).2 (.supply issuer) hmem

end BraleMiden.Bin
