import Mathlib.Tactic.Simps.Basic
import BraleMiden.Operations.Session
import BraleMiden.Operations.Tokens
import BraleMiden.Operations.Reads
import BraleMiden.Chain.Kernel

/-!
# The chain as a client sees it

`chainClient P me env` runs the SDK calls of client `me` on a chain. The environment decides, call by call, whether the
call fails and, at a sync, which pending notes a new block includes (if there is a new block at all). A call that fails
has no effect. A query lists the committed, unconsumed notes that the screener of `P` lists for the account, whoever
created them; every record converts.

* `Chain.Synced`: what syncs and queries can change;
* `Chain.Moved`, `Chain.Collected`: what an output of one note and a consumption change;
* `mintTokens_chain`, `transferTokens_chain`, `createBurnOutput_chain`, `consumeAvailable_chain`: the transactions
  behind an operation that ends well;
* `chainClient_keeps`: what transactions and blocks keep, every call keeps.
-/

namespace BraleMiden

open Effects Accounting

namespace Params

/-- The word in the sysdata slot of a faucet: its issuance, in one of the elements. -/
def sysdata (P : Params) (issuance : ℕ) : Word :=
  #v[0, 0, 0, 0].set P.issuanceElement.val (Felt.new (UInt64.ofNat issuance)) P.issuanceElement.isLt

/-- What the first element of that word says. -/
def supplyRead (P : Params) (issuance : ℕ) : ℕ := if P.issuanceElement.val = 0 then issuance else 0

theorem sysdata_first (P : Params) {issuance : ℕ} (h : issuance ≤ P.maxAmount) :
    (P.sysdata issuance)[0].asInt.toNat = P.supplyRead issuance := by
  have hlt : issuance < feltModulus := h.trans_lt P.maxAmount_lt
  have hlt64 : issuance < 2 ^ 64 := hlt.trans (by decide)
  rw [sysdata, supplyRead, Vector.getElem_set, Felt.asInt_toNat]
  by_cases hfirst : P.issuanceElement.val = 0
  · rw [if_pos hfirst, if_pos hfirst, Felt.new_val, UInt64.toNat_ofNat_of_lt' hlt64, Nat.mod_eq_of_lt hlt]
  · rw [if_neg hfirst, if_neg hfirst]
    rfl

end Params

namespace Chain

/-- What a sync does to the chain: the next block, if there is one. -/
def sync (block : Option (NoteId → Bool)) (s : Chain) : Chain :=
  match block with
  | some incl => s.produceBlock incl
  | none => s

/-- The records and statuses that a query for `a` lists. -/
def records (P : Params) (s : Chain) (a : AccountId) : List (InputNoteRecord × NoteConsumptionStatus) :=
  (s.listed P a).map fun n => (⟨n⟩, n.statusAt a s.height)

/-- The full account record, as the client's store has it. -/
def account (P : Params) (s : Chain) (a : AccountId) : Account where
  id := a
  getBalance f := if f.isFaucet then .ok (s.vault a f) else .error (.msg "not a fungible faucet id")
  getItem
    | .faucetSysdata =>
      if a.isFaucet then .ok (P.sysdata (s.issuance a)) else .error (.msg "no such slot")
    | .metadata => .error (.msg "no such slot")

/-- The pay-to-id note for `asset`, with an id drawn from the client's generator. -/
def payNote (s : Chain) (sender target : AccountId) (asset : FungibleAsset) (noteType : NoteType) : Note :=
  ⟨s.notes.nextId, sender, target, .p2id, noteType, asset⟩

/-- A pay-to-id note has to pay something. -/
def payRequest (s : Chain) (payment : PaymentNoteDescription) (noteType : NoteType) : Except Error TransactionRequest :=
  if payment.asset.amount = 0 then .error (.msg "pay-to-id note without an asset")
  else .ok (.ownOutputNotes [s.payNote payment.sender payment.target payment.asset noteType])

/-- The burn note for `asset`, addressed to the issuer. Burn notes are public. -/
def burnNote (s : Chain) (sender issuer : AccountId) (asset : FungibleAsset) : Note :=
  ⟨s.notes.nextId, sender, issuer, .burn, .pub, asset⟩

/-- An account is what it has and has issued. -/
theorem account_eq {s s' : Chain} {a : AccountId} (hvault : s'.vault a = s.vault a)
    (hissuance : s'.issuance a = s.issuance a) (P : Params) : s'.account P a = s.account P a := by
  simp only [account, hvault, hissuance]

theorem payRequest_ok {s : Chain} {payment : PaymentNoteDescription} {noteType : NoteType} {req : TransactionRequest} :
    s.payRequest payment noteType = .ok req ↔ payment.asset.amount ≠ 0 ∧
      req = .ownOutputNotes [s.payNote payment.sender payment.target payment.asset noteType] := by
  unfold payRequest
  split
  · rename_i h
    simp [h]
  · rename_i h
    simp [h, eq_comm]

end Chain

/-- `FungibleAsset::new`: the id must be a faucet's, the amount at most the maximum. -/
def FungibleAsset.new (P : Params) (faucetId : AccountId) (amount : ℕ) : Except Error FungibleAsset :=
  if faucetId.isFaucet ∧ amount ≤ P.maxAmount then .ok ⟨faucetId, amount⟩ else .error (.msg "invalid fungible asset")

/-- Client `me` on a chain, under an environment. -/
@[simps] def chainClient (P : Params) (me : ClientId) (env : Env) : Client (Session Chain) where
  fungibleAssetNew := FungibleAsset.new P
  createBurnNote sender issuer asset := env.read fun s => s.burnNote sender issuer asset
  buildMintFungibleAsset asset target noteType := env.read fun s =>
    .ownOutputNotes [s.payNote asset.faucetId target asset noteType]
  buildPayToId payment noteType := env.consult fun s => s.payRequest payment noteType
  buildOwnOutputNotes notes := env.read fun _ => .ownOutputNotes notes
  buildConsumeNotes notes := env.read fun _ => .consumeNotes notes
  syncState := env.call fun k s => .ok ((), s.sync (env.block k))
  getConsumableNotes a := env.read fun s => s.records P a
  converts _ := true
  submitNewTransaction a req := env.call fun _ s => (s.submit P me a req).map fun s' => ((), s')
  getAccount a := env.read fun s => if a ∈ s.accounts then some (.full (s.account P a)) else none

/-! ## Single calls -/

section Calls

variable {P : Params} {me : ClientId} {env : Env} {s s' : Session Chain}

theorem chainClient_syncState_ok : Op.run (chainClient P me env).syncState s = (.ok (), s') ↔
    env.fails s.calls = false ∧ s' = s.next (s.state.sync (env.block s.calls)) := by
  rw [chainClient_syncState, Env.run_call_ok]
  simp

theorem chainClient_getConsumableNotes_ok {a : AccountId} {l : List (InputNoteRecord × NoteConsumptionStatus)} :
    Op.run ((chainClient P me env).getConsumableNotes a) s = (.ok l, s') ↔
      env.fails s.calls = false ∧ l = s.state.records P a ∧ s' = s.next s.state := by
  rw [chainClient_getConsumableNotes, Env.run_read_ok]

theorem chainClient_buildConsumeNotes_ok {ns : List Note} {req : TransactionRequest} :
    Op.run ((chainClient P me env).buildConsumeNotes ns) s = (.ok req, s') ↔
      env.fails s.calls = false ∧ req = .consumeNotes ns ∧ s' = s.next s.state := by
  rw [chainClient_buildConsumeNotes, Env.run_read_ok]

theorem chainClient_submitNewTransaction_ok {a : AccountId} {req : TransactionRequest} :
    Op.run ((chainClient P me env).submitNewTransaction a req) s = (.ok (), s') ↔
      env.fails s.calls = false ∧ ∃ c, s.state.submit P me a req = .ok c ∧ s' = s.next c := by
  rw [chainClient_submitNewTransaction, Env.run_call_ok]
  cases s.state.submit P me a req <;> simp [Except.map]

theorem FungibleAsset.new_ok {f : AccountId} {n : ℕ} {asset : FungibleAsset} :
    FungibleAsset.new P f n = .ok asset ↔ f.isFaucet = true ∧ n ≤ P.maxAmount ∧ asset = ⟨f, n⟩ := by
  unfold FungibleAsset.new
  split
  · rename_i h
    simp [h.1, h.2, eq_comm]
  · rename_i h
    simp only [reduceCtorEq, false_iff]
    exact fun h' => h ⟨h'.1, h'.2.1⟩

/-! ## What every call keeps -/

section Frame

variable {R : Chain → Chain → Prop} [IsPreorder Chain R]

theorem chainClient_pollKeeps (hsync : ∀ s k, R s (Chain.sync (env.block k) s)) :
    (chainClient P me env).PollKeeps (OnState R) where
  syncState := Env.call_keeps fun h => by
    cases h
    exact hsync _ _
  getConsumableNotes _ := Env.read_keeps _

theorem chainClient_buildKeeps : (chainClient P me env).BuildKeeps (OnState R) where
  createBurnNote _ _ _ := Env.read_keeps _
  buildMintFungibleAsset _ _ _ := Env.read_keeps _
  buildPayToId _ _ := Env.consult_keeps _
  buildOwnOutputNotes _ := Env.read_keeps _
  buildConsumeNotes _ := Env.read_keeps _

/-- A refused submission has no effect. -/
theorem chainClient_submitFailsKeep : (chainClient P me env).SubmitFailsKeep (OnState R) where
  toBuildKeeps := chainClient_buildKeeps
  submitNewTransaction a req s s' e h := by
    rw [chainClient_submitNewTransaction] at h
    show R s.state s'.state
    rw [Env.run_call_error h]
    exact refl _

/-- **Frame rule**: what transactions and blocks keep, every call keeps. -/
theorem chainClient_keeps (hsync : ∀ s k, R s (Chain.sync (env.block k) s))
    (hsubmit : ∀ {s s' : Chain} {a req}, s.submit P me a req = .ok s' → R s s') :
    (chainClient P me env).Keeps (OnState R) where
  toPollKeeps := chainClient_pollKeeps hsync
  toBuildKeeps := chainClient_buildKeeps
  submitNewTransaction a req := Env.call_keeps fun {k s x c} h => by
    cases hs : s.submit P me a req with
    | error e => rw [hs] at h; cases h
    | ok s' => rw [hs] at h; cases h; exact hsubmit hs

end Frame

end Calls

/-! ## Syncing -/

namespace Chain

/-- What syncs and queries can change: the height, and which notes are committed. -/
structure Synced (s s' : Chain) : Prop where
  accounts : s'.accounts = s.accounts
  maxSupply : s'.maxSupply = s.maxSupply
  issuance : s'.issuance = s.issuance
  vault : s'.vault = s.vault
  notes : s.notes.SameNotes s'.notes
  committed : ∀ p, s.notes.committed p ⊆ s'.notes.committed p
  height : s.height ≤ s'.height

instance : IsPreorder Chain Synced where
  refl _ := ⟨rfl, rfl, rfl, rfl, .refl _, fun _ => List.Subset.refl _, Nat.le_refl _⟩
  trans _ _ _ h h' := ⟨h'.accounts.trans h.accounts, h'.maxSupply.trans h.maxSupply, h'.issuance.trans h.issuance,
    h'.vault.trans h.vault, h.notes.trans h'.notes, fun p _ hn => h'.committed p (h.committed p hn),
    h.height.trans h'.height⟩

theorem Synced.listed {s s' : Chain} (h : Synced s s') (P : Params) (a : AccountId) : s.listed P a ⊆ s'.listed P a :=
  h.committed _

theorem synced_sync (s : Chain) (block : Option (NoteId → Bool)) : Synced s (s.sync block) := by
  cases block with
  | none => exact refl s
  | some incl =>
    exact ⟨rfl, rfl, rfl, rfl, NoteBook.sameNotes_commit incl _ _, fun _ => NoteBook.committed_subset_commit,
      Nat.le_succ _⟩

/-- `s'` is `s` after account `a` output the note `n` in a transaction of client `c`. -/
def Outputs (c : ClientId) (a : AccountId) (n : Note) (s s' : Chain) : Prop :=
  a ∈ s.accounts ∧ CanOutput a s n ∧ ∃ h : n.id ∉ s.notes.ids, s' = afterOutput c a s n h

theorem submit_output_iff {P : Params} {c : ClientId} {a : AccountId} {n : Note} {s s' : Chain} :
    submit P c a (.ownOutputNotes [n]) s = .ok s' ↔ Outputs c a n s s' := by
  rw [submit_output, outputNote_ok]
  exact ⟨fun ⟨ha, h, hc, hs⟩ => ⟨ha, hc, h, hs⟩, fun ⟨ha, hc, h, hs⟩ => ⟨ha, h, hc, hs⟩⟩

/-- `s'` is `s` after syncs and then the consumption, by `a`, of everything that is listed. All of that could be
consumed. -/
def ConsumesAll (P : Params) (a : AccountId) (s s' : Chain) : Prop :=
  ∃ s₁, Synced s s₁ ∧ s₁.listed P a = s₁.consumable a ∧ s₁.consumable a ≠ [] ∧ a ∈ s₁.accounts ∧
    CanConsume P a s₁ (s₁.consumable a) ∧ s' = afterConsume a s₁ (s₁.consumable a)

/-- Account `a` has output the note `n`: issued if `a` is a faucet, paid from its vault otherwise. -/
structure Moved (a : AccountId) (n : Note) (s s' : Chain) : Prop where
  accounts : s'.accounts = s.accounts
  issuance : s'.issuance = if a.isFaucet then credit s.issuance a n.asset.amount else s.issuance
  vault : s'.vault = if a.isFaucet then s.vault else debit s.vault a n.value
  unconsumed : s'.notes.unconsumed = s.notes.unconsumed ++ [n]

/-- Account `a` has consumed the notes `ns`, each once. -/
structure Collected (a : AccountId) (ns : List Note) (s s' : Chain) : Prop where
  accounts : s'.accounts = s.accounts
  nodup : ns.Nodup
  subset : ns ⊆ s.notes.unconsumed
  consumableBy : ∀ n ∈ ns, n.consumableBy a = true
  consumed : ∀ n, s'.notes.IsConsumed n ↔ s.notes.IsConsumed n ∨ n ∈ ns
  issuance : s'.issuance = if a.isFaucet then debit s.issuance a (amountOf ns) else s.issuance
  vault : s'.vault = if a.isFaucet then s.vault else credit s.vault a (ns.map Note.value).sum
  unconsumed : s'.notes.unconsumed = s.notes.unconsumed.filter (· ∉ ns)

theorem Outputs.moved {c : ClientId} {a : AccountId} {n : Note} {s s' : Chain} (h : Outputs c a n s s') :
    Moved a n s s' := by
  obtain ⟨-, -, hid, rfl⟩ := h
  exact ⟨rfl, rfl, rfl, NoteBook.unconsumed_insert (h := hid)⟩

/-- A consumption that is accepted collects its notes. -/
theorem consume_collected {P : Params} {a : AccountId} {ns : List Note} {s s' : Chain}
    (h : consume P a s ns = .ok s') : Collected a ns s s' := by
  obtain ⟨⟨-, hnodup, hready, -⟩, rfl⟩ := consume_ok.1 h
  have hsub : ns ⊆ s.notes.unconsumed := fun n hn => NoteBook.committed_subset_unconsumed (hready n hn).1
  refine ⟨rfl, hnodup, hsub, ?_, ?_, rfl, rfl, NoteBook.unconsumed_markConsumed _ _ _⟩
  · intro n hn
    exact (NoteBook.mem_committed.1 (hready n hn).1).1
  · intro n
    refine NoteBook.isConsumed_markConsumed.trans (or_congr_right (and_iff_left_of_imp fun hn => ?_))
    obtain ⟨e, he, hen, -⟩ := NoteBook.mem_unconsumed.1 (hsub hn)
    exact ⟨e, he, hen⟩

/-- Syncs before a consumption do not change what it collects. -/
theorem Synced.collected {a : AccountId} {ns : List Note} {s s₁ s' : Chain} (h : Synced s s₁)
    (hc : Collected a ns s₁ s') : Collected a ns s s' where
  accounts := hc.accounts.trans h.accounts
  nodup := hc.nodup
  subset := h.notes.unconsumed_eq ▸ hc.subset
  consumableBy := hc.consumableBy
  consumed n := (hc.consumed n).trans (or_congr_left h.notes.isConsumed_iff)
  issuance := h.issuance ▸ hc.issuance
  vault := h.vault ▸ hc.vault
  unconsumed := h.notes.unconsumed_eq ▸ hc.unconsumed

theorem ConsumesAll.collected {P : Params} {a : AccountId} {s s' : Chain} (h : ConsumesAll P a s s') :
    ∃ ns, Collected a ns s s' := by
  obtain ⟨s₁, hsync, -, -, -, hcan, hs'⟩ := h
  exact ⟨_, hsync.collected (consume_collected (consume_ok.2 ⟨hcan, hs'⟩))⟩

end Chain

open Chain

/-! ## The transactions of the operations -/

section Operations

variable {P : Params} {me : ClientId} {env : Env} {s s' : Session Chain}

/-- An accepted mint outputs one pay-to-id note of the issuer. -/
theorem mintTokens_chain {i tgt : AccountId} {n : ℕ}
    (h : Op.run (mintTokens (chainClient P me env) i tgt n) s = (.ok (), s')) :
    i.isFaucet = true ∧ n ≤ P.maxAmount ∧
      Outputs me i (s.state.payNote i tgt ⟨i, n⟩ .priv) s.state s'.state := by
  obtain ⟨asset, req, s₁, hasset, hbuild, hsub⟩ := mintTokens_ok.1 h
  rw [chainClient_buildMintFungibleAsset] at hbuild
  obtain ⟨hi, hn, rfl⟩ := FungibleAsset.new_ok.1 hasset
  obtain ⟨-, rfl, rfl⟩ := Env.run_read_ok.1 hbuild
  obtain ⟨-, c, hs, rfl⟩ := chainClient_submitNewTransaction_ok.1 hsub
  exact ⟨hi, hn, submit_output_iff.1 hs⟩

/-- An accepted transfer outputs one pay-to-id note of the sender. -/
theorem transferTokens_chain {snd rcp i : AccountId} {n : ℕ}
    (h : Op.run (transferTokens (chainClient P me env) snd rcp i n) s = (.ok (), s')) :
    i.isFaucet = true ∧ n ≤ P.maxAmount ∧
      Outputs me snd (s.state.payNote snd rcp ⟨i, n⟩ .priv) s.state s'.state := by
  obtain ⟨asset, req, s₁, hasset, hbuild, hsub⟩ := transferTokens_ok.1 h
  rw [chainClient_buildPayToId] at hbuild
  obtain ⟨hi, hn, rfl⟩ := FungibleAsset.new_ok.1 hasset
  obtain ⟨-, hreq, rfl⟩ := Env.run_consult_ok.1 hbuild
  obtain ⟨-, rfl⟩ := payRequest_ok.1 hreq
  obtain ⟨-, c, hs, rfl⟩ := chainClient_submitNewTransaction_ok.1 hsub
  exact ⟨hi, hn, submit_output_iff.1 hs⟩

/-- Step 1 of a burn takes three calls; it ends well if none fails and the sender can output the burn note. -/
theorem createBurnOutput_chain {snd i : AccountId} {n : ℕ} :
    Op.run (createBurnOutput (chainClient P me env) snd i n) s = (.ok (), s') ↔
      (∀ k < 3, env.fails (s.calls + k) = false) ∧ i.isFaucet = true ∧ n ≤ P.maxAmount ∧
        ∃ c, Outputs me snd (s.state.burnNote snd i ⟨i, n⟩) s.state c ∧ s' = ⟨c, s.calls + 3⟩ := by
  rw [createBurnOutput_ok]
  simp only [chainClient_fungibleAssetNew, chainClient_createBurnNote, chainClient_buildOwnOutputNotes,
    FungibleAsset.new_ok, Env.run_read_ok, chainClient_submitNewTransaction_ok]
  constructor
  · rintro ⟨_, _, s₁, _, s₂, ⟨hi, hn, rfl⟩, ⟨h₀, rfl, rfl⟩, ⟨h₁, rfl, rfl⟩, h₂, c, hs, rfl⟩
    refine ⟨fun k hk => ?_, hi, hn, c, submit_output_iff.1 hs, rfl⟩
    match k, hk with
    | 0, _ => exact h₀
    | 1, _ => exact h₁
    | 2, _ => exact h₂
  · rintro ⟨hf, hi, hn, c, hout, rfl⟩
    exact ⟨_, _, _, _, _, ⟨hi, hn, rfl⟩, ⟨hf 0 (by omega), rfl, rfl⟩, ⟨hf 1 (by omega), rfl, rfl⟩, hf 2 (by omega), c,
      submit_output_iff.2 hout, rfl⟩

/-- The notes of the records are the notes that are listed. -/
theorem filterMap_records (s : Chain) (a : AccountId) :
    ((s.records P a).filterMap fun p => (chainClient P me env).tryInto p.1) = s.listed P a := by
  simp [records, Client.tryInto, chainClient, List.filterMap_map]

/-- A consumption that ends well has gone on to a chain that syncs lead to, and has consumed everything there. -/
theorem consumeAvailable_chain_of {R : Chain → Chain → Prop} [IsPreorder Chain R]
    (hsync : ∀ s k, R s (Chain.sync (env.block k) s)) {t : ConsumeTexts} {a : AccountId}
    (h : Op.run (consumeAvailable (chainClient P me env) t a) s = (.ok (), s')) :
    ∃ s₁, R s.state s₁ ∧ s₁.listed P a = s₁.consumable a ∧ s₁.consumable a ≠ [] ∧ a ∈ s₁.accounts ∧
      CanConsume P a s₁ (s₁.consumable a) ∧ s'.state = afterConsume a s₁ (s₁.consumable a) := by
  obtain ⟨s₁, l, s₂, req, s₃, hloop, hquery, hbuild, hsub⟩ := consumeAvailable_ok.1 h
  obtain ⟨u₁, u₂, l', hR, hlast, hseen, hl'⟩ := pollLoop_ok (R := OnState R) (chainClient_pollKeeps hsync) hloop
  obtain ⟨-, rfl⟩ := chainClient_syncState_ok.1 hlast
  obtain ⟨-, rfl, rfl⟩ := chainClient_getConsumableNotes_ok.1 hseen
  obtain ⟨-, rfl, rfl⟩ := chainClient_getConsumableNotes_ok.1 hquery
  obtain ⟨-, rfl, rfl⟩ := chainClient_buildConsumeNotes_ok.1 hbuild
  obtain ⟨-, c, hsu, rfl⟩ := chainClient_submitNewTransaction_ok.1 hsub
  rw [filterMap_records, submit_consume, consume_ok] at hsu
  have hlist : (u₁.state.sync (env.block u₁.calls)).listed P a = (u₁.state.sync (env.block u₁.calls)).consumable a :=
    hsu.2.1.listed_eq
  refine ⟨_, trans_of R hR (hsync _ _), hlist, ?_, ?_⟩
  · rw [← hlist]
    intro he
    exact hl' (congrArg (List.map fun n => (InputNoteRecord.mk n, n.statusAt a _)) he)
  · rw [← hlist]
    exact hsu

/-- A consumption that ends well has synced and then consumed everything listed. -/
theorem consumeAvailable_chain {t : ConsumeTexts} {a : AccountId}
    (h : Op.run (consumeAvailable (chainClient P me env) t a) s = (.ok (), s')) :
    ConsumesAll P a s.state s'.state :=
  consumeAvailable_chain_of (fun s k => synced_sync s (env.block k)) h

/-- When no call fails and the first sync shows a note, the consumption takes five calls. -/
theorem consumeAvailable_first {t : ConsumeTexts} {a : AccountId} {c : Chain} (hf : ∀ k, env.fails k = false)
    (hne : (s.state.sync (env.block s.calls)).listed P a ≠ [])
    (hsub : (s.state.sync (env.block s.calls)).submit P me a
      (.consumeNotes ((s.state.sync (env.block s.calls)).listed P a)) = .ok c) :
    Op.run (consumeAvailable (chainClient P me env) t a) s = (.ok (), ⟨c, s.calls + 5⟩) := by
  have hne' : (s.state.sync (env.block s.calls)).records P a ≠ [] := by simpa [records] using hne
  have hloop : Op.run (pollLoop (chainClient P me env) t a) s =
      (.ok (), ⟨s.state.sync (env.block s.calls), s.calls + 2⟩) :=
    pollLoop_of_first (chainClient_syncState_ok.2 ⟨hf _, rfl⟩)
      (chainClient_getConsumableNotes_ok.2 ⟨hf _, rfl, rfl⟩) hne'
  refine consumeAvailable_ok.2 ⟨_, _, _, _, _, hloop, chainClient_getConsumableNotes_ok.2 ⟨hf _, rfl, rfl⟩,
    chainClient_buildConsumeNotes_ok.2 ⟨hf _, rfl, rfl⟩, chainClient_submitNewTransaction_ok.2 ⟨hf _, c, ?_, rfl⟩⟩
  rw [filterMap_records]
  exact hsub

end Operations

end BraleMiden
