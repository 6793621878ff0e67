import BraleMiden.Lib.Hoare
import BraleMiden.Bin.Process
import BraleMiden.Chain.Accounts
import BraleMiden.Display
import BraleMiden.Operations.Authenticator
import BraleMiden.Signing.Agreement

/-!
# The full demo

`full_demo.rs`: one process deploys an issuer, creates two wallets, mints, transfers and burns, and prints the balances
after each. The parsing of the environment and the logging are left out.

Every part has a triple, over the number of tables printed so far and the state behind the client (`At`); an error
after fewer than three tables is `Stopped`. The steps keep the chain settled (`mintStep_at`, `transferStep_at`,
`burnStep_at`), so `print_state` prints the numbers of the ledger (`printState_at`).

* `main_tables`: however the demo ends, the tables it printed are the first of three fixed ones, and it never panics.
  The protocol has the issuance in another element than the one that is read, and every table shows a supply of 0.
-/

namespace BraleMiden.Bin.FullDemo

open Effects Systems Accounting Display Text Chain

variable {K : EcdsaK256Keccak} {σ : Type}

/-! ## The demo -/

/-- How the demo can stop early. -/
inductive Stop
  | error (e : Error)
  | panic (p : Panic)

/-- The keys that the demo makes, and the answers it gets while starting. -/
structure Setup (K : EcdsaK256Keccak) (σ : Type) where
  /-- `--private` -/
  isPrivate : Bool
  issuerSk : K.SecretKey
  walletASk : K.SecretKey
  walletBSk : K.SecretKey
  /-- `tempdir()` -/
  tempdir : Except Error Unit
  /-- `Endpoint::try_from(..)` -/
  endpoint : Except Error Unit
  /-- `FilesystemKeyStore::new(..)` -/
  openKeystore : Except Error Unit
  /-- `add_key(..)`, and what the key store holds then -/
  addKey : K.SecretKey → FilesystemKeyStore K → Except Error Unit × FilesystemKeyStore K
  /-- `ClientBuilder` with the keystore as its authenticator -/
  buildClient : BraleKeystore K → Except Error (AccountClient σ)

/-- `storage_mode` -/
def Setup.storageMode (su : Setup K σ) : AccountStorageMode := if su.isPrivate then .priv else .pub

/-- The signing backend, with all keys. -/
def Setup.signer (su : Setup K σ) : ExternalSigner := registeredSigner [su.issuerSk, su.walletASk, su.walletBSk]

/-- The key store on disk, the state behind the client, and what has been printed. -/
structure State (K : EcdsaK256Keccak) (σ : Type) where
  keystore : FilesystemKeyStore K
  client : σ
  out : List Printed

section Steps

variable {α : Type}

/-- A client call. -/
def onClient (x : Op σ Error α) : Op (State K σ) Stop α :=
  Op.embed State.client (fun d s => { d with client := s }) .error x

/-- A call on the key store. -/
def onDisk (x : Op (FilesystemKeyStore K) Error α) : Op (State K σ) Stop α :=
  Op.embed State.keystore (fun d fs => { d with keystore := fs }) .error x

/-- A call that prints. -/
def printing (x : Op (List Printed) Panic α) : Op (State K σ) Stop α :=
  Op.embed State.out (fun d out => { d with out := out }) .panic x

/-- `println!` -/
def say (text : String) : Op (State K σ) Stop Unit := printing (println (.text text))

end Steps

/-- `print_state` -/
def printState (client : Client σ) (issuerId walletAId walletBId : AccountId) : Op (State K σ) Stop Unit := do
  let supply ← onClient (readTotalSupply client issuerId)
  let balA ← onClient (readBalance client walletAId issuerId)
  let balB ← onClient (readBalance client walletBId issuerId)
  printing (printBalanceTable "USDB" supply (UInt64.ofNat balA) (UInt64.ofNat balB))

/-- Up to the client. -/
def startup (su : Setup K σ) : Op (State K σ) Stop (AccountClient σ) := do
  let storage := if su.isPrivate then "Private" else "Public"
  say s!"Wallet storage mode: {storage}"
  onDisk (context "failed to create temp dir" (lift su.tempdir))
  onDisk (lift su.endpoint)
  onDisk (context "failed to create keystore" (lift su.openKeystore))
  onDisk (context "failed to store issuer key" (Op.mk (su.addKey su.issuerSk)))
  onDisk (context "failed to store wallet A key" (Op.mk (su.addKey su.walletASk)))
  onDisk (context "failed to store wallet B key" (Op.mk (su.addKey su.walletBSk)))
  -- The source wraps the key store before it adds the keys. The wrapped store reads the disk, so it has them.
  onDisk (context "failed to build client" (Op.mk fun fs => (su.buildClient (.new fs su.signer), fs)))

/-- The ids of the three accounts. -/
structure Ids where
  issuer : AccountId
  walletA : AccountId
  walletB : AccountId

/-- The first sync, steps 1 and 2, and the second sync. -/
def createAccounts (sdk : Standards) (su : Setup K σ) (client : AccountClient σ) : Op (State K σ) Stop Ids := do
  onClient (context "failed to sync state" client.syncState)
  say "\n=== Step 1: Deploy Issuer ==="
  let issuer ← onClient (deployIssuerAccount client sdk (K.publicKey su.issuerSk) "USDB" 6 1000000000000)
  say s!"Issuer deployed: {issuer.id}"
  say "\n=== Step 2: Create Wallets ==="
  let walletA ← onClient (createWalletAccount client sdk (K.publicKey su.walletASk) su.storageMode)
  say s!"Wallet A: {walletA.id}"
  let walletB ← onClient (createWalletAccount client sdk (K.publicKey su.walletBSk) su.storageMode)
  say s!"Wallet B: {walletB.id}"
  onClient (context "failed to sync state after account creation" client.syncState)
  return ⟨issuer.id, walletA.id, walletB.id⟩

/-- Step 3. -/
def mintStep (client : Client σ) (ids : Ids) : Op (State K σ) Stop Unit := do
  say "\n=== Step 3: Mint Tokens ==="
  onClient (mintTokens client ids.issuer ids.walletA 1000)
  say "Minted 1000 tokens to Wallet A"
  onClient (consumeNotes client ids.walletA)
  say "Wallet A consumed mint note"
  printState client ids.issuer ids.walletA ids.walletB

/-- Step 4. -/
def transferStep (client : Client σ) (ids : Ids) : Op (State K σ) Stop Unit := do
  say "\n=== Step 4: Transfer Tokens ==="
  onClient (transferTokens client ids.walletA ids.walletB ids.issuer 300)
  say "Transferred 300 tokens A → B"
  onClient (consumeNotes client ids.walletB)
  say "Wallet B consumed transfer note"
  printState client ids.issuer ids.walletA ids.walletB

/-- Step 5. -/
def burnStep (client : Client σ) (ids : Ids) : Op (State K σ) Stop Unit := do
  say "\n=== Step 5: Burn Tokens ==="
  onClient (burnTokens client ids.walletB ids.issuer 100)
  say "Burned 100 tokens from Wallet B"
  printState client ids.issuer ids.walletA ids.walletB

/-- `main` -/
def main (sdk : Standards) (su : Setup K σ) : Op (State K σ) Stop Unit := do
  let client ← startup su
  let ids ← createAccounts sdk su client
  mintStep client.toClient ids
  transferStep client.toClient ids
  burnStep client.toClient ids
  say "\nFull demo complete!"

/-! ## The tables -/

/-- The supply and the balances of the wallets after steps 3, 4 and 5. -/
def states : List (ℕ × UInt64 × UInt64) := [(1000, 1000, 0), (1000, 700, 300), (900, 700, 200)]

/-- The lines of the first `k` tables. They show of a supply what the first element of the sysdata word has of it. -/
def tables (P : Params) (k : ℕ) : List Line :=
  (states.take k).flatMap fun (supply, a, b) => balanceLines "USDB" (UInt64.ofNat (P.supplyRead supply)) a b

/-- `k` tables have been printed, and the client's state is in `φ`. -/
def At (P : Params) (k : ℕ) (φ : σ → Prop) (d : State K σ) : Prop := φ d.client ∧ tableLines d.out = tables P k

/-- An error, and not a panic, after fewer than three tables. -/
def Stopped (P : Params) (e : Stop) (d : State K σ) : Prop :=
  (∃ e', e = .error e') ∧ ∃ k < 3, tableLines d.out = tables P k

section Rules

variable {P : Params} {α : Type} {k : ℕ} {φ : σ → Prop} {ψ : α → σ → Prop}

theorem onClient_at {x : Op σ Error α} (hk : k < 3)
    (h : ∀ s a s', φ s → Op.run x s = (.ok a, s') → ψ a s') :
    Triple (At (K := K) P k φ) (onClient x) (fun a => At P k (ψ a)) (Stopped P) := by
  refine Triple.embed fun d hd s hs => ?_
  obtain ⟨hφ, htables⟩ := hd
  rw [← hs] at hφ
  constructor
  · intro a s' hrun
    exact ⟨h s a s' hφ hrun, htables⟩
  · intro e s' _
    exact ⟨⟨e, rfl⟩, k, hk, htables⟩

theorem onDisk_at {x : Op (FilesystemKeyStore K) Error α} {R : α → Prop} (hk : k < 3)
    (h : ∀ fs a fs', Op.run x fs = (.ok a, fs') → R a) :
    Triple (At P k φ) (onDisk x) (fun a d => At P k φ d ∧ R a) (Stopped P) := by
  refine Triple.embed fun d hd fs _ => ?_
  constructor
  · intro a fs' hrun
    exact ⟨hd, h fs a fs' hrun⟩
  · intro e fs' _
    exact ⟨⟨e, rfl⟩, k, hk, hd.2⟩

theorem onDisk_keeps (x : Op (FilesystemKeyStore K) Error α) (hk : k < 3) :
    Triple (At P k φ) (onDisk x) (fun _ => At P k φ) (Stopped P) :=
  (onDisk_at (R := fun _ => True) hk fun _ _ _ _ => trivial).weaken (fun _ h => h) (fun _ _ h => h.1) fun _ _ h => h

theorem say_at (text : String) : Triple (At (K := K) P k φ) (say text) (fun _ => At P k φ) (Stopped P) := by
  refine Triple.embed fun d hd out hout => ?_
  obtain ⟨hφ, htables⟩ := hd
  constructor
  · intro _ out' hrun
    cases hrun
    refine ⟨hφ, ?_⟩
    rw [tableLines_append, tableLines_text, List.append_nil, hout]
    exact htables
  · intro e out' hrun
    cases hrun

/-- One more table. -/
theorem tables_succ {supply : ℕ} {a b : UInt64} (hk : states[k]? = some (supply, a, b)) :
    tables P (k + 1) = tables P k ++ balanceLines "USDB" (UInt64.ofNat (P.supplyRead supply)) a b := by
  rw [tables, List.take_add_one, List.flatMap_append, hk]
  simp [tables]

theorem run_printBalanceTable_usdb (supply a b : UInt64) (out : List Printed) :
    Op.run (printBalanceTable "USDB" supply a b) out = (.ok (), out ++ (balanceLines "USDB" supply a b).map .line) :=
  run_printBalanceTable_append (widthArgument_colToken (by decide)) out

theorem printing_at {supply : ℕ} {a b : UInt64} (hk : states[k]? = some (supply, a, b)) :
    Triple (At (K := K) P k φ) (printing (printBalanceTable "USDB" (UInt64.ofNat (P.supplyRead supply)) a b))
      (fun _ => At P (k + 1) φ) (Stopped P) := by
  refine Triple.embed fun d hd out hout => ?_
  obtain ⟨hφ, htables⟩ := hd
  have hprint := run_printBalanceTable_usdb (UInt64.ofNat (P.supplyRead supply)) a b out
  constructor
  · intro _ out' hrun
    cases hprint.symm.trans hrun
    refine ⟨hφ, ?_⟩
    rw [tableLines_append, tableLines_map, tables_succ hk, hout, htables]
  · intro e out' hrun
    cases hprint.symm.trans hrun

/-- A fact beside the state. -/
theorem assume_at {p : Prop} {x : Op (State K σ) Stop α} {Q : α → State K σ → Prop} {E : Stop → State K σ → Prop}
    (h : p → Triple (At P k φ) x Q E) : Triple (At P k fun s => φ s ∧ p) x Q E :=
  fun d hd => h hd.1.2 d ⟨hd.1.1, hd.2⟩

theorem lt_of_states {x : ℕ × UInt64 × UInt64} (hk : states[k]? = some x) : k < 3 :=
  (List.getElem?_eq_some_iff.1 hk).1

end Rules

/-! ## The steps on a chain -/

/-- The issuer and the wallets are those of a bank, and the wallets are two. -/
structure Ids.On (ids : Ids) (B : Bank) : Prop where
  issuer : ids.issuer = B.issuer
  walletA : ids.walletA ∈ B.wallets
  walletB : ids.walletB ∈ B.wallets
  distinct : ids.walletA ≠ ids.walletB

/-- The ledger after steps 3, 4 and 5. -/
def Ids.minted (ids : Ids) : Clearing AccountId := Clearing.empty.post (.mint ids.walletA 1000)

def Ids.transferred (ids : Ids) : Clearing AccountId := ids.minted.post (.transfer ids.walletA ids.walletB 300)

def Ids.burned (ids : Ids) : Clearing AccountId :=
  (ids.transferred.post (.request ids.walletB 100)).post (.settle 100)

/-- The numbers of a table are those of a ledger. -/
structure Ids.Shows (ids : Ids) (L : Clearing AccountId) (supply : ℕ) (a b : UInt64) : Prop where
  supply : L.supply = supply
  walletA : L.balance ids.walletA = a.toNat
  walletB : L.balance ids.walletB = b.toNat

section Ledger

variable {ids : Ids}

theorem Ids.shows_minted (hne : ids.walletA ≠ ids.walletB) : ids.Shows ids.minted 1000 1000 0 := by
  constructor <;> simp [minted, Clearing.post, Clearing.empty, credit, hne.symm]

theorem Ids.shows_transferred (hne : ids.walletA ≠ ids.walletB) : ids.Shows ids.transferred 1000 700 300 := by
  constructor <;> simp [transferred, minted, Clearing.post, Clearing.empty, credit, debit, hne, hne.symm]

theorem Ids.shows_burned (hne : ids.walletA ≠ ids.walletB) : ids.Shows ids.burned 900 700 200 := by
  constructor <;> simp [burned, transferred, minted, Clearing.post, Clearing.empty, credit, debit, hne, hne.symm]

end Ledger

section Chain

variable {P : Params} {me : ClientId} {env : Env} {seeds : ℕ → Vector UInt8 32} {auth : Authenticator K (Session Chain)}
  {B : Bank} {ids : Ids} {L : Clearing AccountId} {k supply : ℕ} {a b : UInt64}

/-- The client of the demo. -/
abbrev demoClient (P : Params) (me : ClientId) (env : Env) (seeds : ℕ → Vector UInt8 32)
    (auth : Authenticator K (Session Chain)) : AccountClient (Session Chain) :=
  (accountClient P me env seeds).authenticated auth

theorem readTotalSupply_at (hk : k < 3) (hids : ids.On B) :
    Triple (At (K := K) P k fun s => Settled P B s.state L)
      (onClient (readTotalSupply (demoClient P me env seeds auth).toClient ids.issuer))
      (fun n => At P k fun s => Settled P B s.state L ∧ n.toNat = P.supplyRead L.supply) (Stopped P) := by
  rw [hids.issuer]
  refine onClient_at hk fun s n s' h hrun => ?_
  have hread : Op.run (readTotalSupply (chainClient P me env) B.issuer) s = (.ok n, s') := hrun
  obtain ⟨hval, hstate⟩ := h.readTotalSupply_ok hread
  rw [hstate]
  exact ⟨h, hval⟩

theorem readBalance_at (hk : k < 3) (hids : ids.On B) {w : AccountId} (hw : w ∈ B.wallets) :
    Triple (At (K := K) P k fun s => Settled P B s.state L)
      (onClient (readBalance (demoClient P me env seeds auth).toClient w ids.issuer))
      (fun n => At P k fun s => Settled P B s.state L ∧ n = L.balance w) (Stopped P) := by
  rw [hids.issuer]
  refine onClient_at hk fun s n s' h hrun => ?_
  have hread : Op.run (readBalance (chainClient P me env) w B.issuer) s = (.ok n, s') := hrun
  obtain ⟨hval, hstate⟩ := h.readBalance_ok hw hread
  rw [hstate]
  exact ⟨h, hval⟩

/-- `print_state` prints the table of the ledger. -/
theorem printState_at (hids : ids.On B) (hk : states[k]? = some (supply, a, b)) (hL : ids.Shows L supply a b) :
    Triple (At (K := K) P k fun s => Settled P B s.state L)
      (printState (demoClient P me env seeds auth).toClient ids.issuer ids.walletA ids.walletB)
      (fun _ => At P (k + 1) fun s => Settled P B s.state L) (Stopped P) := by
  have hlt := lt_of_states hk
  rw [printState]
  refine .bind (readTotalSupply_at hlt hids) fun n => assume_at fun hn => ?_
  refine .bind (readBalance_at hlt hids hids.walletA) fun x => assume_at fun hx => ?_
  refine .bind (readBalance_at hlt hids hids.walletB) fun y => assume_at fun hy => ?_
  have hsupply : n = UInt64.ofNat (P.supplyRead supply) := by rw [← hL.supply, ← hn, UInt64.ofNat_toNat]
  rw [hsupply, hx, hL.walletA, hy, hL.walletB, UInt64.ofNat_toNat, UInt64.ofNat_toNat]
  exact printing_at hk

theorem mint_at (hids : ids.On B) :
    Triple (At (K := K) P 0 fun s => Settled P B s.state .empty)
      (onClient (mintTokens (demoClient P me env seeds auth).toClient ids.issuer ids.walletA 1000))
      (fun _ => At P 0 fun s => ∃ n, Paid P B ids.walletA n s.state ids.minted) (Stopped P) := by
  rw [hids.issuer]
  refine onClient_at (by decide) fun s _ s' h hrun => ?_
  have hcall : Op.run (mintTokens (chainClient P me env) B.issuer ids.walletA 1000) s = (.ok (), s') :=
    mintTokens_of_authenticated (c := accountClient P me env seeds) hrun
  exact h.mint hids.walletA hcall

theorem transfer_at (hids : ids.On B) :
    Triple (At (K := K) P 1 fun s => Settled P B s.state ids.minted)
      (onClient (transferTokens (demoClient P me env seeds auth).toClient ids.walletA ids.walletB ids.issuer 300))
      (fun _ => At P 1 fun s => ∃ n, Paid P B ids.walletB n s.state ids.transferred) (Stopped P) := by
  rw [hids.issuer]
  refine onClient_at (by decide) fun s _ s' h hrun => ?_
  have hcall : Op.run (transferTokens (chainClient P me env) ids.walletA ids.walletB B.issuer 300) s = (.ok (), s') :=
    transferTokens_of_authenticated (c := accountClient P me env seeds) hrun
  exact (h.transfer hids.walletA hids.walletB hcall).2

/-- A payment is consumed by its wallet. -/
theorem consume_at {w : AccountId} (hk : k < 3) :
    Triple (At (K := K) P k fun s => ∃ n, Paid P B w n s.state L)
      (onClient (consumeNotes (demoClient P me env seeds auth).toClient w))
      (fun _ => At P k fun s => Settled P B s.state L) (Stopped P) := by
  refine onClient_at hk fun s _ s' h hrun => ?_
  have hcall : Op.run (consumeNotes (chainClient P me env) w) s = (.ok (), s') :=
    consumeNotes_of_authenticated (c := accountClient P me env seeds) hrun
  exact h.elim fun n hn => hn.collect hcall

theorem burn_at (hids : ids.On B) :
    Triple (At (K := K) P 2 fun s => Settled P B s.state ids.transferred)
      (onClient (burnTokens (demoClient P me env seeds auth).toClient ids.walletB ids.issuer 100))
      (fun _ => At P 2 fun s => Settled P B s.state ids.burned) (Stopped P) := by
  rw [hids.issuer]
  refine onClient_at (by decide) fun s _ s' h hrun => ?_
  have hcall : Op.run (burnTokens (chainClient P me env) ids.walletB B.issuer 100) s = (.ok (), s') :=
    burnTokens_of_authenticated (c := accountClient P me env seeds) hrun
  exact (h.burn hids.walletB hcall).2

theorem mintStep_at (hids : ids.On B) :
    Triple (At (K := K) P 0 fun s => Settled P B s.state .empty)
      (mintStep (demoClient P me env seeds auth).toClient ids)
      (fun _ => At P 1 fun s => Settled P B s.state ids.minted) (Stopped P) := by
  rw [mintStep]
  exact .bind (say_at _) fun _ => .bind (mint_at hids) fun _ => .bind (say_at _) fun _ =>
    .bind (consume_at (by decide)) fun _ => .bind (say_at _) fun _ =>
      printState_at hids rfl (Ids.shows_minted hids.distinct)

theorem transferStep_at (hids : ids.On B) :
    Triple (At (K := K) P 1 fun s => Settled P B s.state ids.minted)
      (transferStep (demoClient P me env seeds auth).toClient ids)
      (fun _ => At P 2 fun s => Settled P B s.state ids.transferred) (Stopped P) := by
  rw [transferStep]
  exact .bind (say_at _) fun _ => .bind (transfer_at hids) fun _ => .bind (say_at _) fun _ =>
    .bind (consume_at (by decide)) fun _ => .bind (say_at _) fun _ =>
      printState_at hids rfl (Ids.shows_transferred hids.distinct)

theorem burnStep_at (hids : ids.On B) :
    Triple (At (K := K) P 2 fun s => Settled P B s.state ids.transferred)
      (burnStep (demoClient P me env seeds auth).toClient ids)
      (fun _ => At P 3 fun s => Settled P B s.state ids.burned) (Stopped P) := by
  rw [burnStep]
  exact .bind (say_at _) fun _ => .bind (burn_at hids) fun _ => .bind (say_at _) fun _ =>
    printState_at hids rfl (Ids.shows_burned hids.distinct)

/-! ### The accounts -/

/-- The cap of the issuer. -/
def cap : ℕ := 1000000000000

/-- The accounts exist, and nothing else is about them yet. -/
structure Ids.Created (P : Params) (ids : Ids) (s : Chain) : Prop where
  opening : Opening P [ids.walletB, ids.walletA, ids.issuer] s
  issuer : ids.issuer.isFaucet = true
  walletA : ids.walletA.isFaucet = false
  walletB : ids.walletB.isFaucet = false
  distinct : ids.walletA ≠ ids.walletB
  maxSupply : s.maxSupply ids.issuer = cap

/-- The bank of the demo, before it does anything. -/
structure Ids.Opened (P : Params) (ids : Ids) (B : Bank) (s : Chain) : Prop where
  on : ids.On B
  settled : Settled P B s .empty
  maxSupply : s.maxSupply B.issuer = cap

theorem Ids.Created.opened {s : Chain} (h : ids.Created P s) : ∃ B, ids.Opened P B s := by
  let B : Bank := {
    issuer := ids.issuer
    wallets := {ids.walletA, ids.walletB}
    issuer_isFaucet := h.issuer
    not_isFaucet := by simp [h.walletA, h.walletB] }
  refine ⟨B, ⟨rfl, Finset.mem_insert_self _ _, by simp [B], h.distinct⟩, h.opening.settled ?_, h.maxSupply⟩
  intro X hX
  simp only [Bank.accounts, B, Finset.mem_insert, Finset.mem_singleton] at hX
  rcases hX with rfl | rfl | rfl <;> simp

section Accounts

variable {sdk : Standards} {su : Setup K (Session Chain)}

theorem sync_at {φ : Chain → Prop} {m : String} (hφ : ∀ {s s'}, φ s → Synced s s' → φ s') :
    Triple (At (K := K) P 0 fun s => φ s.state) (onClient (context m (demoClient P me env seeds auth).syncState))
      (fun _ => At P 0 fun s => φ s.state) (Stopped P) := by
  refine onClient_at (by decide) fun s _ s' h hrun => ?_
  have hsync : Op.run (chainClient P me env).syncState s = (.ok (), s') := run_context_ok.1 hrun
  obtain ⟨-, rfl⟩ := chainClient_syncState_ok.1 hsync
  exact hφ h (synced_sync _ _)

/-- A wallet of the demo. -/
theorem create_at (htyped : sdk.TypedIds) {sk : K.SecretKey} {mode : AccountStorageMode} {new : List AccountId}
    {i : AccountId} (hi : i ∈ new) :
    Triple (At (K := K) P 0 fun s => Opening P new s.state ∧ s.state.maxSupply i = cap)
      (onClient (createWalletAccount (demoClient P me env seeds auth) sdk (K.publicKey sk) mode))
      (fun account => At P 0 fun s => (Opening P (account.id :: new) s.state ∧ s.state.maxSupply i = cap) ∧
        account.id.isFaucet = false ∧ account.id ∉ new) (Stopped P) := by
  refine onClient_at (by decide) fun s account s' h hrun => ?_
  have hcreate : Op.run (createWalletAccount (accountClient P me env seeds) sdk (K.publicKey sk) mode) s =
      (.ok account, s') := hrun
  obtain ⟨hwallet, hnew, hopening, hmax⟩ := h.1.create htyped hcreate
  exact ⟨⟨hopening, (hmax i hi).trans h.2⟩, hwallet, hnew⟩

theorem deploy_at (hsdk : sdk.Lawful) (htyped : sdk.TypedIds) (hmax : sdk.maxAmount = P.maxAmount) {sk : K.SecretKey} :
    Triple (At (K := K) P 0 fun s => Opening P [] s.state)
      (onClient (deployIssuerAccount (demoClient P me env seeds auth) sdk (K.publicKey sk) "USDB" 6 1000000000000))
      (fun account => At P 0 fun s => (Opening P [account.id] s.state ∧ s.state.maxSupply account.id = cap) ∧
        account.id.isFaucet = true) (Stopped P) := by
  refine onClient_at (by decide) fun s account s' h hrun => ?_
  have hdeploy : Op.run (deployIssuerAccount (accountClient P me env seeds) sdk (K.publicKey sk) "USDB" 6
      1000000000000) s = (.ok account, s') := hrun
  obtain ⟨hfaucet, -, hopening, hcap⟩ := h.deploy hsdk htyped hmax hdeploy
  exact ⟨⟨hopening, hcap⟩, hfaucet⟩

theorem createAccounts_at (hsdk : sdk.Lawful) (htyped : sdk.TypedIds) (hmax : sdk.maxAmount = P.maxAmount) :
    Triple (At (K := K) P 0 fun s => Opening P [] s.state)
      (createAccounts sdk su (demoClient P me env seeds auth))
      (fun ids => At P 0 fun s => ids.Created P s.state) (Stopped P) := by
  rw [createAccounts]
  refine .bind (sync_at fun h hs => h.synced hs) fun _ => .bind (say_at _) fun _ => ?_
  refine .bind (deploy_at hsdk htyped hmax) fun issuer => assume_at fun hissuer => ?_
  refine .bind (say_at _) fun _ => .bind (say_at _) fun _ => ?_
  refine .bind (create_at htyped List.mem_cons_self) fun walletA => assume_at fun hA => .bind (say_at _) fun _ => ?_
  refine .bind (create_at htyped (List.mem_cons_of_mem _ List.mem_cons_self)) fun walletB => assume_at fun hB => ?_
  refine .bind (say_at _) fun _ => ?_
  have hdistinct : walletA.id ≠ walletB.id := by
    intro he
    rw [← he] at hB
    exact hB.2 List.mem_cons_self
  refine .bind (sync_at (φ := fun s => Opening P [walletB.id, walletA.id, issuer.id] s ∧ s.maxSupply issuer.id = cap)
    fun h hs => ⟨h.1.synced hs, by rw [hs.maxSupply, h.2]⟩) fun _ => .pure _ fun d hd => ?_
  obtain ⟨⟨hopening, hcap⟩, htables⟩ := hd
  exact ⟨⟨hopening, hissuer, hA.1, hB.1, hdistinct, hcap⟩, htables⟩

/-- The client is built from the key store and the signer with all keys. -/
theorem startup_at {φ : Session Chain → Prop} : Triple (At P 0 φ) (startup su)
    (fun client d => At P 0 φ d ∧ ∃ fs, su.buildClient (.new fs su.signer) = .ok client) (Stopped P) := by
  have hk : 0 < 3 := by decide
  rw [startup]
  refine .bind (say_at _) fun _ => .bind (onDisk_keeps _ hk) fun _ => .bind (onDisk_keeps _ hk) fun _ => ?_
  refine .bind (onDisk_keeps _ hk) fun _ => .bind (onDisk_keeps _ hk) fun _ => .bind (onDisk_keeps _ hk) fun _ => ?_
  refine .bind (onDisk_keeps _ hk) fun _ => onDisk_at hk fun fs client fs' hrun => ⟨fs, ?_⟩
  exact congrArg Prod.fst (run_context_ok.1 hrun)

/-- The whole demo. -/
theorem main_at (hsdk : sdk.Lawful) (htyped : sdk.TypedIds) (hmax : sdk.maxAmount = P.maxAmount)
    (hbuild : ∀ fs client, su.buildClient (.new fs su.signer) = .ok client →
      ∃ env seeds, ∃ auth : Authenticator K (Session Chain), client = demoClient P me env seeds auth) :
    Triple (At P 0 fun s => Opening P [] s.state) (main sdk su) (fun _ d => tableLines d.out = tables P 3)
      (Stopped P) := by
  rw [main]
  refine .bind startup_at fun client d hd => ?_
  obtain ⟨hat, fs, hfs⟩ := hd
  obtain ⟨env, seeds, auth, rfl⟩ := hbuild fs client hfs
  refine Triple.bind (createAccounts_at hsdk htyped hmax) (fun ids d hd => ?_) d hat
  obtain ⟨B, hB⟩ := hd.1.opened
  have hsteps : Triple (At (K := K) P 0 fun s => Settled P B s.state .empty) (do
      mintStep (demoClient P me env seeds auth).toClient ids
      transferStep (demoClient P me env seeds auth).toClient ids
      burnStep (demoClient P me env seeds auth).toClient ids
      say "\nFull demo complete!") (fun _ d => tableLines d.out = tables P 3) (Stopped P) :=
    .bind (mintStep_at hB.on) fun _ => .bind (transferStep_at hB.on) fun _ => .bind (burnStep_at hB.on) fun _ =>
      (say_at _).weaken (fun _ h => h) (fun _ _ h => h.2) fun _ _ h => h
  exact hsteps d ⟨hB.settled, hd.2⟩

/-- **What the demo prints.** However the calls and the signatures of the demo turn out, on a chain that knows nothing
of its accounts: the tables it has printed are the first of three tables. The balances in them are 1000 and 0, 700 and
300, 700 and 200; the supplies in them are what the first element of the sysdata word has of 1000, 1000 and 900. It has
printed all three when it ends well, fewer when it does not, and it never panics. -/
theorem main_tables (hsdk : sdk.Lawful) (htyped : sdk.TypedIds) (hmax : sdk.maxAmount = P.maxAmount)
    (hbuild : ∀ fs client, su.buildClient (.new fs su.signer) = .ok client →
      ∃ env seeds, ∃ auth : Authenticator K (Session Chain), client = demoClient P me env seeds auth)
    {d d' : State K (Session Chain)} (hopening : Opening P [] d.client.state) (hout : d.out = [])
    {r : Except Stop Unit} (hrun : Op.run (main sdk su) d = (r, d')) :
    (r = .ok () ∧ tableLines d'.out = tables P 3) ∨
      ∃ e, r = .error (.error e) ∧ ∃ k < 3, tableLines d'.out = tables P k := by
  have htriple := main_at hsdk htyped hmax hbuild
  have hstart : At P 0 (fun s => Opening P [] s.state) d := ⟨hopening, by rw [hout]; rfl⟩
  cases r with
  | ok _ => exact .inl ⟨rfl, htriple.of_ok hstart hrun⟩
  | error e =>
    obtain ⟨⟨e', rfl⟩, k, hk, htables⟩ := htriple.of_error hstart hrun
    exact .inr ⟨e', rfl, k, hk, htables⟩

/-- On the protocol's chain the three tables show no supply. -/
example : tables .protocol 3 =
    balanceLines "USDB" 0 1000 0 ++ (balanceLines "USDB" 0 700 300 ++ balanceLines "USDB" 0 700 200) := rfl

end Accounts

end Chain

/-! ## A demo -/

namespace Sample

open TestVector

/-- The key of the test vector for an issuer, the other key for a wallet. -/
def keyOf (ty : AccountType) : sdk.SecretKey :=
  match ty with
  | .fungibleFaucet => Key.testOnly
  | .regularAccountImmutableCode => Key.other

/-- An account with its number in its id. -/
def account (number : ℕ) (ty : AccountType) (component : Component (UInt8 × Felt)) : Account :=
  { Usdb.account ty component with id := ⟨ty = .fungibleFaucet, number⟩ }

/-- An account for the right key, numbered by the first byte of the seed. -/
def build (seed : Vector UInt8 32) (ty : AccountType) (_ : AccountStorageMode) (component : Component (UInt8 × Felt))
    (com : PublicKeyCommitment) : Except Error Account :=
  if com = sdk.commitmentOf (keyOf ty) then .ok (account seed[0].toNat ty component) else .error (.msg "unknown key")

/-- The SDK with the one symbol `USDB`, and this builder. -/
def standards : Standards := { Usdb.sdk with build := build }

theorem build_ok {seed : Vector UInt8 32} {ty : AccountType} {mode : AccountStorageMode}
    {component : Component standards.Faucet} {com : PublicKeyCommitment} {acc : Account}
    (h : standards.build seed ty mode component com = .ok acc) :
    com = sdk.commitmentOf (keyOf ty) ∧ acc = account seed[0].toNat ty component := by
  have hb : build seed ty mode component com = .ok acc := h
  unfold build at hb
  split at hb
  · rename_i hcom
    cases hb
    exact ⟨hcom, rfl⟩
  · cases hb

theorem standards_lawful : standards.Lawful where
  maxAmount_lt := Usdb.sdk_lawful.maxAmount_lt
  symbolText_new := Usdb.sdk_lawful.symbolText_new
  symbolTryFrom_felt := Usdb.sdk_lawful.symbolTryFrom_felt
  faucetNew_ok := Usdb.sdk_lawful.faucetNew_ok
  build_metadata := by
    intro t d m f seed ty mode com acc hf hb
    obtain ⟨-, rfl⟩ := build_ok hb
    have husdb : Usdb.sdk.build seed ty mode (.basicFungibleFaucet f) com =
        .ok (Usdb.account ty (.basicFungibleFaucet f)) := rfl
    have hitem := Usdb.sdk_lawful.build_metadata (t := t) hf husdb
    exact hitem

theorem standards_typed : standards.TypedIds := by
  intro seed ty mode component com acc h
  obtain ⟨-, rfl⟩ := build_ok h
  exact decide_eq_true_iff

/-- The key of an account by its id. -/
def authKey (a : AccountId) : PublicKeyCommitment :=
  sdk.commitmentOf (keyOf (if a.isFaucet then .fungibleFaucet else .regularAccountImmutableCode))

theorem standards_keyed : KeyedIds standards authKey := by
  intro seed ty mode component com acc h
  obtain ⟨rfl, rfl⟩ := build_ok h
  cases ty with
  | fungibleFaucet => rfl
  | regularAccountImmutableCode => rfl

/-- The client number 0, which signs with `keystore`. -/
def client (env : Env) (keystore : BraleKeystore sdk) : AccountClient (Session Chain) :=
  demoClient .protocol 0 env (fun n => Vector.replicate 32 (UInt8.ofNat n))
    ⟨keystore, authKey, fun _ _ _ => ⟨commitment⟩⟩

/-- The demo on the protocol's chain; both wallets have the same key. -/
def setup (env : Env) : Setup sdk (Session Chain) where
  isPrivate := false
  issuerSk := Key.testOnly
  walletASk := Key.other
  walletBSk := Key.other
  tempdir := .ok ()
  endpoint := .ok ()
  openKeystore := .ok ()
  addKey sk fs := (.ok (), addKey fs sk)
  buildClient keystore := .ok (client env keystore)

/-- A chain without accounts. -/
def start : State sdk (Session Chain) := ⟨⟨fun _ => .ok none⟩, ⟨genesis ∅ fun _ => 0, 0⟩, []⟩

theorem opening_start : Opening .protocol [] start.client.state :=
  (fresh_genesis fun _ => Nat.zero_le _).opening

end Sample

open Sample TestVector in
/-- A demo whose tenth call fails ends in one of these ways. -/
theorem tables_of_failing : ∃ r d',
    Op.run (main standards (setup ⟨fun k => k = 9, fun _ => some fun _ => true⟩)) start = (r, d') ∧
      ((r = .ok () ∧ tableLines d'.out = tables .protocol 3) ∨
        ∃ e, r = .error (.error e) ∧ ∃ k < 3, tableLines d'.out = tables .protocol k) := by
  cases hrun : Op.run (main standards (setup ⟨fun k => k = 9, fun _ => some fun _ => true⟩)) start with
  | mk r d' =>
    have hbuild : ∀ fs c, (setup ⟨fun k => k = 9, fun _ => some fun _ => true⟩).buildClient fs = .ok c →
        ∃ env seeds, ∃ auth : Authenticator sdk (Session Chain), c = demoClient .protocol 0 env seeds auth :=
      fun fs c h => ⟨_, _, _, (Except.ok.inj h).symm⟩
    exact ⟨r, d', rfl, main_tables standards_lawful standards_typed rfl (fun fs => hbuild _) opening_start rfl hrun⟩

end BraleMiden.Bin.FullDemo
