import BraleMiden.Chain.Settled
import BraleMiden.Operations.Issuer

/-!
# New accounts

`accountClient` is the client of the chain with the calls that create accounts. An account that is added has a new id,
no tokens, and, if it is an issuer, the maximum supply of its metadata.

* `Opening`: nothing on the chain is about an id that was not added yet, or about the accounts in a list of new ones;
* `Opening.deploy`, `Opening.create`: creating an account puts it on the list;
* `Opening.settled`: an issuer and wallets of the list are a bank with an empty ledger.
-/

namespace BraleMiden

open Effects Systems Accounting

namespace Chain

/-- `add_account(account, overwrite)` -/
def addAccount (account : Account) (overwrite : Bool) (s : Chain) : Except Error Chain :=
  if account.id ∈ s.accounts then
    if overwrite then .ok s else .error (.msg "account is already tracked")
  else .ok { s with
    accounts := insert account.id s.accounts
    maxSupply := if account.id.isFaucet then Function.update s.maxSupply account.id (maxSupplyOf account)
      else s.maxSupply }

theorem addAccount_ok {account : Account} {s s' : Chain} : s.addAccount account false = .ok s' ↔
    account.id ∉ s.accounts ∧ s' = { s with
      accounts := insert account.id s.accounts
      maxSupply := if account.id.isFaucet then Function.update s.maxSupply account.id (maxSupplyOf account)
        else s.maxSupply } := by
  unfold addAccount
  by_cases h : account.id ∈ s.accounts
  · rw [if_pos h]
    simp [h]
  · rw [if_neg h]
    constructor
    · intro hs
      cases hs
      exact ⟨h, rfl⟩
    · intro hs
      obtain ⟨-, rfl⟩ := hs
      rfl

end Chain

/-- Client `me` on a chain, with the calls that create accounts; `seeds` are the bytes of its generator. -/
@[simps toClient] def accountClient (P : Params) (me : ClientId) (env : Env) (seeds : ℕ → Vector UInt8 32) :
    AccountClient (Session Chain) where
  toClient := chainClient P me env
  fillBytes s := (seeds s.calls, s)
  addAccount account overwrite := env.call fun _ s => (s.addAccount account overwrite).map fun c => ((), c)

/-- Only accounts of the type of a faucet are faucets. -/
def Standards.TypedIds (sdk : Standards) : Prop :=
  ∀ {seed ty mode component com account}, sdk.build seed ty mode component com = .ok account →
    (account.id.isFaucet = true ↔ ty = .fungibleFaucet)

namespace Chain

/-- Nothing on the chain is about `X`. -/
structure Untouched (s : Chain) (X : AccountId) : Prop where
  issuance : s.issuance X = 0
  vault : s.vault X = 0
  notes : ∀ n ∈ s.notes.unconsumed, n.sender ≠ X ∧ n.target ≠ X ∧ n.asset.faucetId ≠ X

/-- A sound chain on which nothing is about the ids that are not added yet, nor about the accounts `new`. -/
structure Opening (P : Params) (new : List AccountId) (s : Chain) : Prop where
  sound : Sound P s
  unknown : ∀ X ∉ s.accounts, s.Untouched X
  added : ∀ X ∈ new, X ∈ s.accounts ∧ s.Untouched X

section Opening

variable {P : Params} {me : ClientId} {env : Env} {seeds : ℕ → Vector UInt8 32} {new : List AccountId} {s s' : Chain}
  {X : AccountId} {sdk : Standards} {K : EcdsaK256Keccak}

theorem Untouched.synced (h : s.Untouched X) (hs : Synced s s') : s'.Untouched X where
  issuance := by
    rw [hs.issuance]
    exact h.issuance
  vault := by
    rw [hs.vault]
    exact h.vault
  notes := by
    rw [hs.notes.unconsumed_eq]
    exact h.notes

theorem Opening.synced (h : Opening P new s) (hs : Synced s s') : Opening P new s' where
  sound := h.sound.synced hs
  unknown X hX := by
    rw [hs.accounts] at hX
    exact (h.unknown X hX).synced hs
  added X hX := by
    rw [hs.accounts]
    exact ⟨(h.added X hX).1, (h.added X hX).2.synced hs⟩

/-- A new account has nothing, so nothing has to be made up for. -/
theorem Sound.addAccount {account : Account} (h : Sound P s) (hX : s.Untouched account.id)
    (hcap : account.id.isFaucet = true → maxSupplyOf account ≤ P.maxAmount)
    (hs : s.addAccount account false = .ok s') : Sound P s' := by
  obtain ⟨hnew, rfl⟩ := addAccount_ok.1 hs
  refine ⟨?_, ?_, ?_⟩
  · show s.issuance = ∑ a ∈ insert account.id s.accounts, s.vault a + s.notes.total Note.value
    rw [Finset.sum_insert hnew, hX.vault, zero_add]
    exact h.value
  · intro f
    show s.issuance f ≤ (if account.id.isFaucet then _ else _ : AccountId → ℕ) f
    split
    · by_cases hf : f = account.id
      · rw [hf, hX.issuance]
        exact Nat.zero_le _
      · rw [Function.update_of_ne hf]
        exact h.issuance_le f
    · exact h.issuance_le f
  · intro f
    show (if account.id.isFaucet then _ else _ : AccountId → ℕ) f ≤ P.maxAmount
    split
    · rename_i hfaucet
      by_cases hf : f = account.id
      · rw [hf, Function.update_self]
        exact hcap hfaucet
      · rw [Function.update_of_ne hf]
        exact h.maxSupply_le f
    · exact h.maxSupply_le f

theorem Opening.addAccount {account : Account} (h : Opening P new s)
    (hcap : account.id.isFaucet = true → maxSupplyOf account ≤ P.maxAmount)
    (hs : s.addAccount account false = .ok s') : account.id ∉ new ∧ Opening P (account.id :: new) s' := by
  obtain ⟨hnew, hs'⟩ := addAccount_ok.1 hs
  have hX := h.unknown _ hnew
  -- what is on the chain has not changed
  have hsame : ∀ X, s.Untouched X → s'.Untouched X := by
    rintro X ⟨hissuance, hvault, hnotes⟩
    rw [hs']
    exact ⟨hissuance, hvault, hnotes⟩
  have hacc : s'.accounts = insert account.id s.accounts := by rw [hs']
  refine ⟨fun hmem => hnew (h.added _ hmem).1, h.sound.addAccount hX hcap hs, ?_, ?_⟩
  · intro X hX
    rw [hacc, Finset.mem_insert, not_or] at hX
    exact hsame X (h.unknown X hX.2)
  · intro X hX
    rw [hacc]
    rcases List.mem_cons.1 hX with rfl | hmem
    · exact ⟨Finset.mem_insert_self _ _, hsame _ (h.unknown _ hnew)⟩
    · exact ⟨Finset.mem_insert_of_mem (h.added X hmem).1, hsame X (h.added X hmem).2⟩

/-- An issuer and wallets that were just added are a bank with an empty ledger. -/
theorem Opening.settled (h : Opening P new s) {B : Bank} (hB : ∀ X ∈ B.accounts, X ∈ new) :
    Settled P B s .empty := by
  have hissuer := (h.added _ (hB _ B.issuer_mem)).2
  have hvault : ∀ X ∈ s.accounts, s.vault X B.issuer = 0 := by
    intro X hX
    have hle := h.sound.vault_le hX B.issuer
    rw [hissuer.issuance] at hle
    exact Nat.le_zero.1 hle
  have hforeign : ∀ n ∈ s.notes.unconsumed, B.Foreign n := fun n hn hf => absurd hf (hissuer.notes n hn).2.2
  have htotal : ∀ g : Note → ℕ, (∀ n ∈ s.notes.unconsumed, g n = 0) → s.notes.total g = 0 := by
    intro g hg
    exact List.sum_eq_zero (by simpa using hg)
  refine ⟨⟨⟨h.sound, fun X hX => (h.added X (hB X hX)).1, fun X hX _ => hvault X hX, fun n hn => .inl (hforeign n hn)⟩,
    ?_, hissuer.issuance, htotal _ fun n hn => B.burnedBy_of_foreign (hforeign n hn), Clearing.balanced_empty⟩, ?_⟩
  · intro X hX
    have howed : s.owed B.issuer X = 0 := htotal _ fun n hn => B.owedTo_of_foreign (hforeign n hn) X
    rw [hvault X (h.added X (hB X (Bank.mem_accounts hX))).1, howed]
    rfl
  · intro X hX
    refine List.eq_nil_iff_forall_not_mem.2 fun n hn => ?_
    obtain ⟨hun, hlists⟩ := mem_waiting.1 hn
    obtain ⟨hsender, htarget, -⟩ := (h.added X (hB X hX)).2.notes n hun
    rcases P.relevant hlists with ht | ⟨-, hs⟩
    · exact htarget ht
    · exact hsender hs

/-! ## Creating accounts -/

theorem run_addAccount_ok {account : Account} {s s' : Session Chain} {overwrite : Bool} :
    Op.run ((accountClient P me env seeds).addAccount account overwrite) s = (.ok (), s') ↔
      env.fails s.calls = false ∧ ∃ c, s.state.addAccount account overwrite = .ok c ∧ s' = s.next c := by
  unfold accountClient
  rw [Env.run_call_ok]
  cases s.state.addAccount account overwrite <;> simp [Except.map]

/-- An issuer that is deployed has a new id, and at most the maximum supply of the call. -/
theorem Opening.deploy {s s' : Session Chain} {pubKey : K.PublicKey} {symbol : String} {decimals : UInt8}
    {maxSupply : UInt64} {account : Account} (h : Opening P new s.state) (hsdk : sdk.Lawful) (hids : sdk.TypedIds)
    (hmax : sdk.maxAmount = P.maxAmount)
    (hrun : Op.run (deployIssuerAccount (accountClient P me env seeds) sdk pubKey symbol decimals maxSupply) s =
      (.ok account, s')) :
    account.id.isFaucet = true ∧ account.id ∉ new ∧ Opening P (account.id :: new) s'.state ∧
      s'.state.maxSupply account.id = (Felt.new maxSupply).val := by
  obtain ⟨-, hle, t, -, hmeta⟩ := deployed_metadata hsdk hrun
  obtain ⟨_, _, -, -, hbuild, hadd⟩ := run_deployIssuerAccount_ok.1 hrun
  obtain ⟨-, c, hc, rfl⟩ := run_addAccount_ok.1 hadd
  have hfaucet : account.id.isFaucet = true := (hids hbuild).2 rfl
  have hcap : maxSupplyOf account = (Felt.new maxSupply).val := by
    unfold maxSupplyOf
    rw [hmeta]
    rfl
  have hstate : c.maxSupply account.id = maxSupplyOf account := by
    obtain ⟨-, rfl⟩ := addAccount_ok.1 hc
    show (if account.id.isFaucet then _ else _ : AccountId → ℕ) account.id = _
    rw [if_pos hfaucet, Function.update_self]
  obtain ⟨hnew, hopening⟩ := h.addAccount (fun _ => by rw [hcap, ← hmax]; exact hle) hc
  exact ⟨hfaucet, hnew, hopening, hstate.trans hcap⟩

/-- A wallet that is created has a new id. -/
theorem Opening.create {s s' : Session Chain} {pubKey : K.PublicKey} {mode : AccountStorageMode} {account : Account}
    (h : Opening P new s.state) (hids : sdk.TypedIds)
    (hrun : Op.run (createWalletAccount (accountClient P me env seeds) sdk pubKey mode) s = (.ok account, s')) :
    account.id.isFaucet = false ∧ account.id ∉ new ∧ Opening P (account.id :: new) s'.state ∧
      ∀ X ∈ new, s'.state.maxSupply X = s.state.maxSupply X := by
  obtain ⟨hbuild, hadd⟩ := run_createWalletAccount_ok.1 hrun
  obtain ⟨-, c, hc, rfl⟩ := run_addAccount_ok.1 hadd
  have hwallet : ¬ account.id.isFaucet = true := by
    intro hf
    cases (hids hbuild).1 hf
  obtain ⟨hnew, hopening⟩ := h.addAccount (fun hf => absurd hf hwallet) hc
  refine ⟨by simpa using hwallet, hnew, hopening, ?_⟩
  intro X _
  obtain ⟨-, rfl⟩ := addAccount_ok.1 hc
  show (if account.id.isFaucet then _ else _ : AccountId → ℕ) X = _
  rw [if_neg hwallet]
  rfl

end Opening

/-! ## Idle accounts -/

/-- The account has issued nothing and holds nothing. -/
structure Idle (s : Chain) (X : AccountId) : Prop where
  issuance : s.issuance X = 0
  vault : s.vault X = 0

section Idle

variable {P : Params} {c : ClientId} {s s' : Chain} {X a : AccountId} {req : TransactionRequest}

theorem Idle.synced (h : s.Idle X) (hs : Synced s s') : s'.Idle X where
  issuance := by
    rw [hs.issuance]
    exact h.issuance
  vault := by
    rw [hs.vault]
    exact h.vault

theorem Idle.submit (h : s.Idle X) (hne : X ≠ a) (hs : s.submit P c a req = .ok s') : s'.Idle X := by
  obtain ⟨hissuance, hvault⟩ := submit_other hne hs
  exact ⟨hissuance.trans h.issuance, hvault.trans h.vault⟩

theorem Idle.addAccount {account : Account} (h : s.Idle X) (hs : s.addAccount account false = .ok s') : s'.Idle X := by
  obtain ⟨-, rfl⟩ := addAccount_ok.1 hs
  exact ⟨h.issuance, h.vault⟩

end Idle

end Chain

/-- A fresh chain knows nothing of any account. -/
theorem Fresh.opening {P : Params} {s : Chain} (h : Fresh P s) : Chain.Opening P [] s where
  sound := h.sound
  unknown X _ := by
    refine ⟨by rw [h.issuance]; rfl, by rw [h.vault]; rfl, ?_⟩
    intro n hn
    rw [h.notes] at hn
    cases hn
  added := nofun

end BraleMiden
