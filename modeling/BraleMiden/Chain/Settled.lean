import BraleMiden.Chain.History

/-!
# Between the operations

When every payment is consumed by its wallet before the next operation starts, nothing is ever on the way between two
operations (`Settled`). Then what `read_balance` answers is the ledger, exactly.

* `Settled.paid`, `Paid.collect`: a payment, and the consumption that follows it;
* `Settled.burn`: a burn settles its own amount;
* `Settled.readBalance`, `Settled.readTotalSupply`: what the reads answer;
* `run_mintTokens`, …: when no call fails and every sync sees a block with all notes, the operations end well;
* `ledger_realised`: so the operations can do whatever the atomic ledger can do within the maximum supply.
-/

namespace BraleMiden

open Effects Systems Accounting Chain

/-- The unconsumed notes that a client lists for `X` as soon as they are committed. -/
def Chain.waiting (P : Params) (s : Chain) (X : AccountId) : List Note := s.notes.unconsumed.filter (P.lists X)

/-- The chain implements the ledger, and no note waits for an account of the bank. -/
structure Settled (P : Params) (B : Bank) (s : Chain) (L : Clearing AccountId) : Prop extends Clears P B s L where
  waiting : ∀ X ∈ B.accounts, s.waiting P X = []

/-- The chain implements the ledger, and the note `n` for `t` is the only one that waits for an account of the bank. -/
structure Paid (P : Params) (B : Bank) (t : AccountId) (n : Note) (s : Chain) (L : Clearing AccountId) : Prop
    extends Clears P B s L where
  mem : t ∈ B.wallets
  script : n.script = .p2id
  target : n.target = t
  waiting : ∀ X ∈ B.accounts, s.waiting P X = if X = t then [n] else []

/-! ## Payments and consumptions -/

section Settled

variable {P : Params} {me : ClientId} {env : Env} {B : Bank} {s s' : Chain} {L L' : Clearing AccountId}
  {a t X : AccountId} {n : Note} {ns : List Note} {amount : ℕ}

theorem Bank.mem_accounts (h : X ∈ B.wallets) : X ∈ B.accounts := Finset.mem_insert_of_mem h

theorem Bank.issuer_mem (B : Bank) : B.issuer ∈ B.accounts := Finset.mem_insert_self _ _

theorem Chain.mem_waiting : n ∈ s.waiting P X ↔ n ∈ s.notes.unconsumed ∧ P.lists X n = true := List.mem_filter

theorem Chain.listed_subset_waiting (P : Params) (s : Chain) (X : AccountId) : s.listed P X ⊆ s.waiting P X :=
  fun _ hn => mem_waiting.2 ⟨NoteBook.committed_subset_unconsumed hn, (NoteBook.mem_committed.1 hn).1⟩

theorem Chain.outstanding_subset_waiting (P : Params) (s : Chain) (X : AccountId) : s.outstanding X ⊆ s.waiting P X :=
  fun _ hn => mem_waiting.2 ⟨(mem_outstanding.1 hn).1, P.complete (mem_outstanding.1 hn).2⟩

/-- Syncing brings no new notes. -/
theorem Chain.Synced.waiting_eq (h : Synced s s') (X : AccountId) : s'.waiting P X = s.waiting P X := by
  rw [Chain.waiting, Chain.waiting, h.notes.unconsumed_eq]

/-- A new note that is not P2IDE waits for the account it is addressed to, if at all. -/
theorem Chain.Outputs.waiting_eq {c : ClientId} (h : Outputs c a n s s') (hs : n.script.isP2ide = false)
    (ht : n.consumableBy n.target = true) :
    s'.waiting P X = s.waiting P X ++ if X = n.target then [n] else [] := by
  have hiff : P.lists X n = true ↔ X = n.target := by
    constructor
    · intro hl
      rcases P.relevant hl with hX | ⟨hp, -⟩
      · exact hX.symm
      · rw [hs] at hp
        cases hp
    · rintro rfl
      exact P.complete ht
  simp only [Chain.waiting, h.moved.unconsumed, List.filter_append, List.filter_singleton, Bool.cond_eq_ite, hiff]

/-- What is left over for an account. -/
theorem Chain.waiting_markConsumed (ns : List Note) (X : AccountId)
    (h : s'.notes.unconsumed = s.notes.unconsumed.filter (· ∉ ns)) :
    s'.waiting P X = (s.waiting P X).filter (· ∉ ns) := by
  rw [Chain.waiting, Chain.waiting, h, List.filter_filter, List.filter_filter]
  exact List.filter_congr fun n _ => Bool.and_comm _ _

theorem Settled.outstanding (h : Settled P B s L) (hX : X ∈ B.accounts) : s.outstanding X = [] :=
  List.eq_nil_of_subset_nil (h.waiting X hX ▸ outstanding_subset_waiting P s X)

/-- Nothing is on the way to a wallet. -/
theorem Settled.owed (h : Settled P B s L) (hX : X ∈ B.wallets) : s.owed B.issuer X = 0 := by
  apply List.sum_eq_zero
  intro m hm
  obtain ⟨n, hn, rfl⟩ := List.mem_map.1 hm
  unfold Note.owedTo
  split
  · rename_i hp
    have hw := B.not_isFaucet X hX
    have hcb : n.consumableBy X = true := by simp [Note.consumableBy, hp.1, hp.2.1, hw]
    have hmem : n ∈ s.outstanding X := mem_outstanding.2 ⟨hn, hcb⟩
    rw [h.outstanding (Bank.mem_accounts hX)] at hmem
    cases hmem
  · rfl

theorem Settled.vault (h : Settled P B s L) (hX : X ∈ B.wallets) : s.vault X B.issuer = L.balance X := by
  have hbal := h.balance X hX
  rw [h.owed hX] at hbal
  exact hbal

/-- An accepted payment is the only note that waits. -/
theorem Settled.paid {c : ClientId} (h : Settled P B s L) (hn : B.Payment n t amount) (hout : Outputs c a n s s')
    (hL : Clears P B s' L') : Paid P B t n s' L' where
  toClears := hL
  mem := hn.mem
  script := hn.script
  target := hn.target
  waiting X hX := by
    have ht : n.consumableBy n.target = true := by
      have hw := B.not_isFaucet t hn.mem
      simp [Note.consumableBy, hn.script, hn.target, hw]
    rw [hout.waiting_eq (by rw [hn.script]; rfl) ht, h.waiting X hX, hn.target, List.nil_append]

/-- After the consumption of its note by the wallet, nothing waits. -/
theorem Paid.collected (h : Paid P B t n s L) (hs : Sound P s') (hc : Collected t [n] s s') : Settled P B s' L where
  toClears := h.toClears.collect hs h.mem hc
  waiting X hX := by
    rw [waiting_markConsumed [n] X hc.unconsumed, h.waiting X hX]
    split
    · simp
    · rfl

theorem Paid.synced (h : Paid P B t n s L) (hs : Synced s s') : Paid P B t n s' L where
  toClears := h.toClears.synced hs
  mem := h.mem
  script := h.script
  target := h.target
  waiting X hX := by
    rw [hs.waiting_eq]
    exact h.waiting X hX

theorem Paid.consumableBy (h : Paid P B t n s L) : n.consumableBy t = true := by
  have hw := B.not_isFaucet t h.mem
  simp [Note.consumableBy, h.script, h.target, hw]

/-- The wallet can find nothing but the note. -/
theorem Paid.listed (h : Paid P B t n s L) (hne : s.listed P t ≠ []) : s.listed P t = [n] := by
  have hall : s.waiting P t = [n] := by rw [h.waiting t (Bank.mem_accounts h.mem), if_pos rfl]
  exact eq_singleton_of_nodup (NoteBook.nodup_committed _ _) (hall ▸ listed_subset_waiting P s t) hne

/-- A consumption that ends well after a payment settles it. -/
theorem Paid.collect {s s' : Session Chain} (h : Paid P B t n s.state L)
    (hrun : Op.run (consumeNotes (chainClient P me env) t) s = (.ok (), s')) : Settled P B s'.state L := by
  have hs : Sound P s'.state := (consumeNotes_keeps Chain.Sound.keeps t).of_run hrun h.sound
  obtain ⟨s₁, hsync, hlist, hne, -, hcan, hs'⟩ := consumeAvailable_chain hrun
  have h₁ := h.synced hsync
  rw [← hlist] at hne hcan hs'
  rw [h₁.listed hne] at hcan hs'
  have hc : Collected t [n] s₁ s'.state := consume_collected (consume_ok.2 ⟨hcan, hs'⟩)
  exact h₁.collected hs hc

/-! ## Calls that end well -/

theorem Settled.mint {s s' : Session Chain} (h : Settled P B s.state L) (ht : t ∈ B.wallets)
    (hrun : Op.run (mintTokens (chainClient P me env) B.issuer t amount) s = (.ok (), s')) :
    ∃ n, Paid P B t n s'.state (L.post (.mint t amount)) := by
  have hout := (mintTokens_chain hrun).2.2
  have hs : Sound P s'.state := h.sound.submit (submit_output_iff.2 hout)
  have hpay : B.Payment (s.state.payNote B.issuer t ⟨B.issuer, amount⟩ .priv) t amount := ⟨rfl, rfl, rfl, ht⟩
  exact ⟨_, h.paid hpay hout (h.toClears.mint hs hpay hout.moved)⟩

theorem Settled.transfer {s s' : Session Chain} (h : Settled P B s.state L) (ha : a ∈ B.wallets) (ht : t ∈ B.wallets)
    (hrun : Op.run (transferTokens (chainClient P me env) a t B.issuer amount) s = (.ok (), s')) :
    amount ≤ L.balance a ∧ ∃ n, Paid P B t n s'.state (L.post (.transfer a t amount)) := by
  have hout := (transferTokens_chain hrun).2.2
  have hs : Sound P s'.state := h.sound.submit (submit_output_iff.2 hout)
  have hpay : B.Payment (s.state.payNote a t ⟨B.issuer, amount⟩ .priv) t amount := ⟨rfl, rfl, rfl, ht⟩
  have hle : amount ≤ s.state.vault a B.issuer := hout.le_vault (by simp [B.not_isFaucet a ha]) rfl
  exact ⟨h.covered ha hle, _, h.paid hpay hout (h.toClears.transfer hs ha hpay hle hout.moved)⟩

/-- A burn settles its own amount, and leaves nothing behind. -/
theorem Settled.burn {s s' : Session Chain} (h : Settled P B s.state L) (ha : a ∈ B.wallets)
    (hrun : Op.run (burnTokens (chainClient P me env) a B.issuer amount) s = (.ok (), s')) :
    amount ≤ L.balance a ∧ Settled P B s'.state ((L.post (.request a amount)).post (.settle amount)) := by
  obtain ⟨-, s₁, s₂, hout, hsync, hcan, hs'⟩ := burn_own (h.outstanding B.issuer_mem) hrun
  have hw : ¬ a.isFaucet = true := by simp [B.not_isFaucet a ha]
  have hle : amount ≤ s.state.vault a B.issuer := hout.le_vault hw rfl
  have hs₁ : Sound P s₁ := h.sound.submit (submit_output_iff.2 hout)
  have h₂ := (h.toClears.request hs₁ ha hle hout.moved).synced hsync
  have hs : Sound P s'.state := (burnTokens_keeps Chain.Sound.keeps a B.issuer amount).of_run hrun h.sound
  have hc := consume_collected (consume_ok.2 ⟨hcan, hs'⟩)
  have hsettled := (h₂.settle hs hc).2
  rw [amountOf_burnNote] at hsettled
  refine ⟨h.covered ha hle, hsettled, ?_⟩
  intro X hX
  have hcb := burnNote_consumableBy s.state a B.issuer_isFaucet amount
  rw [waiting_markConsumed _ X hc.unconsumed, hsync.waiting_eq, hout.waiting_eq rfl hcb, h.waiting X hX]
  split
  · simp
  · rfl

/-! ## The reads -/

theorem Settled.readBalance {k : ℕ} (h : Settled P B s L) (hX : X ∈ B.wallets) (hk : env.fails k = false) :
    Op.run (BraleMiden.readBalance (chainClient P me env) X B.issuer) ⟨s, k⟩ = (.ok (L.balance X), ⟨s, k + 1⟩) := by
  rw [readBalance_chain hk (h.accounts (Bank.mem_accounts hX)) B.issuer_isFaucet, h.vault hX]

theorem Settled.readTotalSupply {k : ℕ} (h : Settled P B s L) (hk : env.fails k = false) :
    ∃ supply, Op.run (BraleMiden.readTotalSupply (chainClient P me env) B.issuer) ⟨s, k⟩ = (.ok supply, ⟨s, k + 1⟩) ∧
      supply.toNat = P.supplyRead L.supply := by
  rw [← h.supply]
  exact readTotalSupply_chain h.sound hk (h.accounts B.issuer_mem) B.issuer_isFaucet

/-- A read that ends well made a call that did not fail. -/
theorem fails_of_fullAccount {s s' : Session Chain} {acc : Account} {failed missing tracked : String}
    (hrun : Op.run (fullAccount (chainClient P me env) a failed missing tracked) s = (.ok acc, s')) :
    env.fails s.calls = false := by
  have hread := getAccount_of_fullAccount hrun
  rw [chainClient_getAccount] at hread
  exact (Env.run_read_ok.1 hread).1

/-- The full account that a read gets is the one of the chain. -/
theorem run_fullAccount_ok {s s' : Session Chain} {acc : Account} {failed missing tracked : String}
    (hrun : Op.run (fullAccount (chainClient P me env) a failed missing tracked) s = (.ok acc, s')) :
    acc = s.state.account P a ∧ s'.state = s.state := by
  have hread := getAccount_of_fullAccount hrun
  rw [chainClient_getAccount] at hread
  obtain ⟨-, hrecord, rfl⟩ := Env.run_read_ok.1 hread
  by_cases ha : a ∈ s.state.accounts
  · rw [if_pos ha] at hrecord
    cases hrecord
    exact ⟨rfl, rfl⟩
  · rw [if_neg ha] at hrecord
    cases hrecord

theorem Settled.readBalance_ok {s s' : Session Chain} {b : ℕ} (h : Settled P B s.state L) (hX : X ∈ B.wallets)
    (hrun : Op.run (BraleMiden.readBalance (chainClient P me env) X B.issuer) s = (.ok b, s')) :
    b = L.balance X ∧ s'.state = s.state := by
  obtain ⟨_, _, hacc, -⟩ := Op.run_bind_ok.1 hrun
  have hsame := (h.readBalance hX (fails_of_fullAccount hacc)).symm.trans hrun
  cases hsame
  exact ⟨rfl, rfl⟩

theorem Settled.readTotalSupply_ok {s s' : Session Chain} {supply : UInt64} (h : Settled P B s.state L)
    (hrun : Op.run (BraleMiden.readTotalSupply (chainClient P me env) B.issuer) s = (.ok supply, s')) :
    supply.toNat = P.supplyRead L.supply ∧ s'.state = s.state := by
  obtain ⟨_, _, hacc, -⟩ := Op.run_bind_ok.1 hrun
  obtain ⟨supply', hread, hval⟩ := h.readTotalSupply (fails_of_fullAccount hacc)
  have hsame := hread.symm.trans hrun
  cases hsame
  exact ⟨hval, rfl⟩

end Settled

/-! ## When nothing fails -/

/-- No call fails, and every sync sees a block with all pending notes. -/
structure Env.Friendly (env : Env) : Prop where
  fails : ∀ k, env.fails k = false
  block : ∀ k, env.block k = some fun _ => true

/-- Such an environment. -/
def Env.friendly : Env := .steady (some fun _ => true)

theorem Env.friendly_friendly : Env.friendly.Friendly := ⟨fun _ => rfl, fun _ => rfl⟩

section Friendly

variable {P : Params} {me : ClientId} {env : Env} {B : Bank} {s : Session Chain} {L : Clearing AccountId}
  {i a t : AccountId} {n : Note} {amount : ℕ}

theorem run_mintTokens (henv : env.Friendly) (hi : i.isFaucet = true) (hacc : i ∈ s.state.accounts)
    (hn : amount ≤ P.maxAmount) (hcap : s.state.issuance i + amount ≤ s.state.maxSupply i) :
    ∃ s', Op.run (mintTokens (chainClient P me env) i t amount) s = (.ok (), s') := by
  have hcan : CanOutput i s.state (s.state.payNote i t ⟨i, amount⟩ .priv) := by
    rw [CanOutput, if_pos hi]
    exact ⟨rfl, hcap⟩
  have hbuild : Op.run ((chainClient P me env).buildMintFungibleAsset ⟨i, amount⟩ t .priv) s =
      (.ok (.ownOutputNotes [s.state.payNote i t ⟨i, amount⟩ .priv]), s.next s.state) := by
    rw [chainClient_buildMintFungibleAsset]
    exact Env.run_read_ok.2 ⟨henv.fails _, rfl, rfl⟩
  have hsub := (submit_output_iff (P := P) (c := me)).2 ⟨hacc, hcan, s.state.notes.nextId_notMem, rfl⟩
  exact ⟨_, mintTokens_ok.2 ⟨_, _, _, FungibleAsset.new_ok.2 ⟨hi, hn, rfl⟩, hbuild,
    chainClient_submitNewTransaction_ok.2 ⟨henv.fails _, _, hsub, rfl⟩⟩⟩

theorem run_transferTokens (henv : env.Friendly) (hi : i.isFaucet = true) (ha : a.isFaucet = false)
    (hacc : a ∈ s.state.accounts) (hpos : amount ≠ 0) (hn : amount ≤ P.maxAmount) (hle : amount ≤ s.state.vault a i) :
    ∃ s', Op.run (transferTokens (chainClient P me env) a t i amount) s = (.ok (), s') := by
  have hcan : CanOutput a s.state (s.state.payNote a t ⟨i, amount⟩ .priv) := by
    simpa [CanOutput, ha, payNote] using hle
  have hbuild : Op.run ((chainClient P me env).buildPayToId ⟨⟨i, amount⟩, a, t⟩ .priv) s =
      (.ok (.ownOutputNotes [s.state.payNote a t ⟨i, amount⟩ .priv]), s.next s.state) := by
    rw [chainClient_buildPayToId]
    exact Env.run_consult_ok.2 ⟨henv.fails _, payRequest_ok.2 ⟨hpos, rfl⟩, rfl⟩
  have hsub := (submit_output_iff (P := P) (c := me)).2 ⟨hacc, hcan, s.state.notes.nextId_notMem, rfl⟩
  exact ⟨_, transferTokens_ok.2 ⟨_, _, _, FungibleAsset.new_ok.2 ⟨hi, hn, rfl⟩, hbuild,
    chainClient_submitNewTransaction_ok.2 ⟨henv.fails _, _, hsub, rfl⟩⟩⟩

/-- A block with all pending notes lists every note that waits for an account. -/
theorem waiting_subset_listed (P : Params) (s : Chain) (X : AccountId) :
    s.waiting P X ⊆ (s.produceBlock fun _ => true).listed P X := by
  intro n hn
  obtain ⟨hun, hlists⟩ := mem_waiting.1 hn
  obtain ⟨e, he, rfl, hs⟩ := NoteBook.mem_unconsumed.1 hun
  refine NoteBook.mem_committed_commit.2 ⟨hlists, e, he, rfl, ?_⟩
  cases hst : e.status with
  | pending => exact .inr ⟨rfl, rfl⟩
  | committed b => exact .inl rfl
  | consumed => simp [hst, NoteStatus.isConsumed] at hs

/-- If one note waits, and its account can consume it, it is all that is listed after a block, and all that can be
consumed. -/
theorem listed_of_waiting {X : AccountId} {s : Chain} (hone : s.waiting P X = [n]) (hcb : n.consumableBy X = true) :
    (s.produceBlock fun _ => true).listed P X = [n] ∧ (s.produceBlock fun _ => true).consumable X = [n] := by
  have hsync : Synced s (s.produceBlock fun _ => true) := synced_sync s (some fun _ => true)
  have hseen : n ∈ (s.produceBlock fun _ => true).listed P X :=
    waiting_subset_listed P s X (hone ▸ List.mem_singleton_self n)
  have hlisted : (s.produceBlock fun _ => true).listed P X = [n] := by
    refine eq_singleton_of_nodup (NoteBook.nodup_committed _ _) ?_ (List.ne_nil_of_mem hseen)
    rw [← hone, ← hsync.waiting_eq]
    exact listed_subset_waiting P _ X
  refine ⟨hlisted, ?_⟩
  rw [← hlisted]
  refine (listed_eq_consumable fun m hm => ?_).symm
  rw [hlisted, List.mem_singleton] at hm
  rw [hm]
  exact hcb

/-- After a payment the wallet's consumption ends well. -/
theorem Paid.run_consumeNotes (h : Paid P B t n s.state L) (henv : env.Friendly) :
    ∃ s', Op.run (consumeNotes (chainClient P me env) t) s = (.ok (), s') := by
  have hw := B.not_isFaucet t h.mem
  have hone : s.state.waiting P t = [n] := by rw [h.waiting t (Bank.mem_accounts h.mem), if_pos rfl]
  obtain ⟨hlisted, hall⟩ := listed_of_waiting hone h.consumableBy
  have hready : (s.state.produceBlock fun _ => true).Ready t n :=
    ⟨hall ▸ List.mem_singleton_self n, by simp [Note.availableFrom, h.script]⟩
  have hcan : CanConsume P t (s.state.produceBlock fun _ => true) [n] :=
    ⟨P.inputNoteLimit_pos, List.nodup_singleton n, by simpa using hready, fun hf => by simp [hw] at hf⟩
  have hacc : t ∈ (s.state.produceBlock fun _ => true).accounts := h.accounts (Bank.mem_accounts h.mem)
  have hsub := (submit_consume (c := me)).2 ⟨hacc, consume_ok.2 ⟨hcan, rfl⟩⟩
  have hblock : s.state.sync (env.block s.calls) = s.state.produceBlock fun _ => true := by
    rw [henv.block]
    rfl
  refine ⟨_, consumeAvailable_first henv.fails (c := afterConsume t (s.state.produceBlock fun _ => true) [n]) ?_ ?_⟩
  · rw [hblock, hlisted]
    exact List.cons_ne_nil n []
  · rw [hblock, hlisted]
    exact hsub

/-- A burn of what the wallet holds ends well. -/
theorem Settled.run_burnTokens (h : Settled P B s.state L) (henv : env.Friendly) (ha : a ∈ B.wallets)
    (hle : amount ≤ L.balance a) :
    ∃ s', Op.run (burnTokens (chainClient P me env) a B.issuer amount) s = (.ok (), s') := by
  have hw := B.not_isFaucet a ha
  have hacc := h.accounts (Bank.mem_accounts ha)
  rw [← h.vault ha] at hle
  have hn : amount ≤ P.maxAmount := hle.trans (h.sound.vault_le_maxAmount hacc B.issuer)
  have hcan : CanOutput a s.state (s.state.burnNote a B.issuer ⟨B.issuer, amount⟩) := by
    simpa [CanOutput, hw, burnNote] using hle
  obtain ⟨s₁, hout⟩ : ∃ s₁, Outputs me a (s.state.burnNote a B.issuer ⟨B.issuer, amount⟩) s.state s₁ :=
    ⟨_, hacc, hcan, s.state.notes.nextId_notMem, rfl⟩
  have hfirst : Op.run (createBurnOutput (chainClient P me env) a B.issuer amount) s = (.ok (), ⟨s₁, s.calls + 3⟩) :=
    createBurnOutput_chain.2 ⟨fun _ _ => henv.fails _, B.issuer_isFaucet, hn, s₁, hout, rfl⟩
  have hcl : Clears P B s₁ (L.post (.request a amount)) := (h.toClears.createBurnOutput ha hfirst).2
  have hcb := burnNote_consumableBy s.state a B.issuer_isFaucet amount
  -- the issuer finds the note of this call, and no other
  have hone : s₁.waiting P B.issuer = [s.state.burnNote a B.issuer ⟨B.issuer, amount⟩] := by
    rw [hout.waiting_eq rfl hcb, h.waiting _ B.issuer_mem]
    exact if_pos rfl
  obtain ⟨hlisted, hall⟩ := listed_of_waiting hone hcb
  have hs₂ : Sound P (s₁.produceBlock fun _ => true) := hcl.sound.synced (synced_sync s₁ (some fun _ => true))
  have hlen : ((s₁.produceBlock fun _ => true).consumable B.issuer).length ≤ P.inputNoteLimit := by
    rw [hall]
    exact P.inputNoteLimit_pos
  have hcan := hs₂.canConsume B.issuer_isFaucet hlen
  rw [hall] at hcan
  have hacc₂ : B.issuer ∈ (s₁.produceBlock fun _ => true).accounts := hcl.accounts B.issuer_mem
  have hsub := (submit_consume (c := me)).2 ⟨hacc₂, consume_ok.2 ⟨hcan, rfl⟩⟩
  have hblock : s₁.sync (env.block (s.calls + 3)) = s₁.produceBlock fun _ => true := by
    rw [henv.block]
    rfl
  refine ⟨_, burnTokens_ok.2 ⟨_, hfirst, consumeAvailable_first henv.fails (c := afterConsume B.issuer
    (s₁.produceBlock fun _ => true) [s.state.burnNote a B.issuer ⟨B.issuer, amount⟩]) ?_ ?_⟩⟩
  · show (s₁.sync (env.block (s.calls + 3))).listed P B.issuer ≠ []
    rw [hblock, hlisted]
    exact List.cons_ne_nil _ _
  · show submit P me B.issuer (.consumeNotes ((s₁.sync (env.block (s.calls + 3))).listed P B.issuer))
      (s₁.sync (env.block (s.calls + 3))) = _
    rw [hblock, hlisted]
    exact hsub

end Friendly

/-! ## What the operations can do -/

/-- The call is not about an amount of 0, for which there is no pay-to-id note. -/
def TokenCall.Positive : TokenCall → Prop
  | .mint _ _ n => 0 < n
  | .transfer _ _ _ n => 0 < n
  | .consume _ => True
  | .burn _ _ n => 0 < n

/-- The atomic ledger of a bank, for positive amounts and with a maximum supply. -/
def cappedLedger (B : Bank) (cap : ℕ) : System (Ledger AccountId) TokenCall where
  init L := L = .empty
  step L call L' := B.Serves call ∧ call.Positive ∧ atomicLedger.step L call L' ∧ L'.supply ≤ cap

/-- The calls that do what the ledger does in one step: a payment is followed by the consumption of its note. -/
def TokenCall.fulfil : TokenCall → List TokenCall
  | .mint i t n => [.mint i t n, .consume t]
  | .transfer snd rcp i n => [.transfer snd rcp i n, .consume rcp]
  | .consume _ => []
  | .burn snd i n => [.burn snd i n]

/-- Nothing waits, and the chain is where the ledger is. -/
structure Realises (P : Params) (B : Bank) (cap : ℕ) (L : Ledger AccountId) (s : Chain) : Prop
    extends Settled P B s L.cleared where
  maxSupply : s.maxSupply B.issuer = cap

section Realised

variable {P : Params} {me : ClientId} {env : Env} {B : Bank} {s s' : Chain} {L L' : Ledger AccountId} {cap : ℕ}
  {call : TokenCall}

/-- No call changes a maximum supply. -/
theorem TokenCall.op_maxSupply (call : TokenCall) :
    Keeps (OnState (Agrees Chain.maxSupply)) (call.op (chainClient P me env)) := by
  refine call.op_keeps (chainClient_keeps ?_ ?_)
  · intro s k
    exact (synced_sync s (env.block k)).maxSupply
  · intro s s' a req hs
    refine submit_keeps (Q := fun t => t.maxSupply = s.maxSupply) ?_ ?_ rfl hs
    · intro t t' n ht _ hout
      obtain ⟨-, -, rfl⟩ := outputNote_ok.1 hout
      exact ht
    · intro t t' ns ht _ hcons
      obtain ⟨-, rfl⟩ := consume_ok.1 hcons
      exact ht

/-- A call in an environment in which nothing fails, as a step of the bank's runs. -/
theorem step_of_run (call : TokenCall) {u : Session Chain} (hserves : B.Serves call)
    (hrun : Op.run (call.op (chainClient P me env)) ⟨s, 0⟩ = (.ok (), u)) :
    (bankRuns P me B).step s call u.state ∧ u.state.maxSupply = s.maxSupply :=
  ⟨⟨hserves, env, u.calls, hrun⟩, call.op_maxSupply.of_run hrun⟩

/-- A payment that ended well, followed by the consumption of its note. -/
theorem Paid.realise {t : AccountId} {n : Note} {M : Clearing AccountId} (h : Paid P B t n s M) :
    ∃ s', (bankRuns P me B).step s (.consume t) s' ∧ Settled P B s' M ∧ s'.maxSupply = s.maxSupply := by
  have hpaid : Paid P B t n (⟨s, 0⟩ : Session Chain).state M := h
  obtain ⟨u, hrun⟩ : ∃ u, Op.run (consumeNotes (chainClient P me .friendly) t) ⟨s, 0⟩ = (.ok (), u) :=
    hpaid.run_consumeNotes Env.friendly_friendly
  obtain ⟨hstep, hmax⟩ := step_of_run (.consume t) h.mem hrun
  exact ⟨u.state, hstep, hpaid.collect hrun, hmax⟩

/-- One step of the ledger. -/
theorem Realises.step (h : Realises P B cap L s) (hstep : (cappedLedger B cap).step L call L') :
    ∃ s', Run (bankRuns P me B) s call.fulfil s' ∧ Realises P B cap L' s' := by
  have hfriendly := Env.friendly_friendly
  have hsession : Settled P B (⟨s, 0⟩ : Session Chain).state L.cleared := h.toSettled
  obtain ⟨hserves, hpos, hledger, hcap⟩ := hstep
  cases call with
  | mint i t n =>
    obtain ⟨rfl, ht⟩ := hserves
    cases hledger
    have hissuance : s.issuance B.issuer + n ≤ s.maxSupply B.issuer := by
      rw [h.supply, h.maxSupply]
      exact hcap
    have hn : n ≤ P.maxAmount := (Nat.le_add_left _ _).trans (hissuance.trans (h.sound.maxSupply_le _))
    obtain ⟨u, hrun⟩ : ∃ u, Op.run (mintTokens (chainClient P me .friendly) B.issuer t n) ⟨s, 0⟩ = (.ok (), u) :=
      run_mintTokens hfriendly B.issuer_isFaucet (h.accounts B.issuer_mem) hn hissuance
    obtain ⟨hfirst, hmax⟩ := step_of_run (.mint B.issuer t n) ⟨rfl, ht⟩ hrun
    obtain ⟨note, hpaid⟩ := hsession.mint ht hrun
    obtain ⟨s', hsecond, hsettled, hmax'⟩ := hpaid.realise
    exact ⟨s', .cons hfirst (.cons hsecond (.nil _)), hsettled, by rw [hmax', hmax, h.maxSupply]⟩
  | transfer snd rcp i n =>
    obtain ⟨hsnd, hrcp, rfl⟩ := hserves
    obtain ⟨hle, rfl⟩ := hledger
    have hvault : n ≤ s.vault snd B.issuer := by
      rw [h.vault hsnd]
      exact hle
    have hacc := h.accounts (Bank.mem_accounts hsnd)
    obtain ⟨u, hrun⟩ : ∃ u, Op.run (transferTokens (chainClient P me .friendly) snd rcp B.issuer n) ⟨s, 0⟩ =
        (.ok (), u) :=
      run_transferTokens hfriendly B.issuer_isFaucet (B.not_isFaucet snd hsnd) hacc (Nat.ne_of_gt hpos)
        (hvault.trans (h.sound.vault_le_maxAmount hacc _)) hvault
    obtain ⟨hfirst, hmax⟩ := step_of_run (.transfer snd rcp B.issuer n) ⟨hsnd, hrcp, rfl⟩ hrun
    obtain ⟨-, note, hpaid⟩ := hsession.transfer hsnd hrcp hrun
    obtain ⟨s', hsecond, hsettled, hmax'⟩ := hpaid.realise
    exact ⟨s', .cons hfirst (.cons hsecond (.nil _)), hsettled, by rw [hmax', hmax, h.maxSupply]⟩
  | consume a =>
    cases hledger
    exact ⟨s, .nil s, h⟩
  | burn snd i n =>
    obtain ⟨hsnd, rfl⟩ := hserves
    obtain ⟨hle, rfl⟩ := hledger
    obtain ⟨u, hrun⟩ : ∃ u, Op.run (burnTokens (chainClient P me .friendly) snd B.issuer n) ⟨s, 0⟩ = (.ok (), u) :=
      hsession.run_burnTokens hfriendly hsnd hle
    obtain ⟨hfirst, hmax⟩ := step_of_run (.burn snd B.issuer n) ⟨hsnd, rfl⟩ hrun
    have hsettled := (hsession.burn hsnd hrun).2
    rw [Ledger.cleared_burn] at hsettled
    exact ⟨u.state, .cons hfirst (.nil _), hsettled, by rw [hmax, h.maxSupply]⟩

/-- A fresh chain, and the empty ledger. -/
theorem Fresh.realises (h : Fresh P s) (hacc : s.accounts = insert B.issuer B.wallets) :
    Realises P B (s.maxSupply B.issuer) .empty s := by
  refine ⟨⟨h.clears hacc.ge, ?_⟩, rfl⟩
  intro X _
  rw [Chain.waiting, h.notes]
  rfl

/-- **The operations can do what the atomic ledger can do.** For every run of the ledger of a bank, with positive
amounts and within the maximum supply, there is a run of the operations, in which every payment is followed by the
consumption of its note and all calls end well, after which `read_balance` of every wallet answers exactly what the
ledger says, the issuance is the ledger's supply, and `read_total_supply` answers what the first element of the sysdata
word has of it. -/
theorem ledger_realised {s₀ : Chain} {calls : List TokenCall} (hinit : (bankRuns P me B).init s₀)
    (hL : Run (cappedLedger B (s₀.maxSupply B.issuer)) .empty calls L) :
    ∃ s, Run (bankRuns P me B) s₀ (calls.flatMap TokenCall.fulfil) s ∧
      (∀ X ∈ B.wallets, ∀ env k, env.fails k = false →
        Op.run (readBalance (chainClient P me env) X B.issuer) ⟨s, k⟩ = (.ok (L.balance X), ⟨s, k + 1⟩)) ∧
      s.issuance B.issuer = L.supply ∧
      ∀ env k, env.fails k = false → ∃ supply,
        Op.run (readTotalSupply (chainClient P me env) B.issuer) ⟨s, k⟩ = (.ok supply, ⟨s, k + 1⟩) ∧
          supply.toNat = P.supplyRead L.supply := by
  have h₀ : Realises P B (s₀.maxSupply B.issuer) .empty s₀ := hinit.1.realises hinit.2
  have hexplained : Explained (cappedLedger B (s₀.maxSupply B.issuer)) (bankRuns P me B)
      (fun call calls => call.fulfil = calls) (Realises P B (s₀.maxSupply B.issuer)) := by
    constructor
    · rintro _ rfl
      exact ⟨s₀, hinit, h₀⟩
    · intro L s call L' h hstep
      obtain ⟨s', hrun, h'⟩ := h.step hstep
      exact ⟨_, s', rfl, hrun, h'⟩
  obtain ⟨kss, s, hkss, hrun, h⟩ := hexplained.run hL h₀
  have hcalls : calls.map TokenCall.fulfil = kss := List.forall₂_eq_eq_eq ▸ List.forall₂_map_left_iff.2 hkss
  rw [← hcalls, ← List.flatMap_def] at hrun
  refine ⟨s, hrun, ?_, h.supply, ?_⟩
  · intro X hX env k hk
    exact h.toSettled.readBalance hX hk
  · intro env k hk
    exact h.toSettled.readTotalSupply hk

end Realised

open LeftoverBurn TwoWallets

/-- A ledger that mints 100 to Alice, moves 30 to Bob and burns 40 of Alice's is realised; then she reads 30. -/
theorem mint_transfer_burn_realised : ∃ s, Run (bankRuns .protocol 0 TwoWallets.bank) opened
      [.mint issuer alice 100, .consume alice, .transfer alice bob issuer 30, .consume bob, .burn alice issuer 40] s ∧
    Op.run (readBalance (chainClient .protocol 0 (.steady none)) alice issuer) ⟨s, 0⟩ = (.ok 30, ⟨s, 1⟩) ∧
    s.issuance issuer = 60 := by
  have hL : Run (cappedLedger TwoWallets.bank 1000) .empty
      [.mint issuer alice 100, .transfer alice bob issuer 30, .burn alice issuer 40]
      (((Ledger.empty.mint alice 100).transfer alice bob 30).burn alice 40) :=
    .cons (t := Ledger.empty.mint alice 100) ⟨⟨rfl, by decide⟩, Nat.succ_pos _, rfl, by decide⟩
      (.cons (t := (Ledger.empty.mint alice 100).transfer alice bob 30)
        ⟨⟨by decide, by decide, rfl⟩, Nat.succ_pos _, ⟨by decide, rfl⟩, by decide⟩
        (.cons ⟨⟨by decide, rfl⟩, Nat.succ_pos _, ⟨by decide, rfl⟩, by decide⟩ (.nil _)))
  have hinit : (bankRuns .protocol 0 TwoWallets.bank).init opened := ⟨fresh_genesis fun _ => by decide, rfl⟩
  obtain ⟨s, hrun, hread, hissuance, -⟩ := ledger_realised hinit hL
  exact ⟨s, hrun, hread alice (by decide) (.steady none) 0 rfl, hissuance⟩

end BraleMiden
