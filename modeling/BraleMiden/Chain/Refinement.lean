import BraleMiden.Chain.Burn

/-!
# The two-step notes refine an atomic ledger

One client tracks one issuer and some wallets, and nobody else creates notes. Then any sequence of mints, transfers,
consumptions and burns that all end well has the effect of an atomic ledger, on which a mint credits, a transfer moves,
a burn debits and a consumption does nothing: what a wallet has in its vault, with what is on the way to it in pay-to-id
notes, is its balance on the ledger.

* `Refines`: the relation of the chain to the ledger. It contains the invariant that no burn note is outstanding between
  calls (`Refines.tidy`), which is why a burn consumes its own note;
* `Refines.mint`, `Refines.transfer`, `Refines.consume`, `Refines.burn`: one lemma per operation;
* `refines_ledger`: the simulation;
* `LedgerRefined`, `run_refines_ledger`: what the reads answer after whole runs. `read_total_supply` reads the first
  element of the sysdata word, so its answer is the ledger's only if the protocol keeps the issuance there, or if
  nothing is in circulation.
-/

namespace BraleMiden

open Effects Systems Accounting

/-! ## What is on the way to an account -/

/-- What the note pays to `X`, of the token of `f`. -/
def Note.owedTo (f X : AccountId) (n : Note) : ℕ :=
  if n.script = .p2id ∧ n.target = X ∧ n.asset.faucetId = f then n.asset.amount else 0

namespace Chain

variable {s s' : Chain} {a f X : AccountId} {n : Note} {ns : List Note}

/-- The unconsumed pay-to-id notes to `X` together. -/
def owed (s : Chain) (f X : AccountId) : ℕ := s.notes.total (Note.owedTo f X)

theorem Moved.owed (h : Moved a n s s') : s'.owed f X = s.owed f X + n.owedTo f X := by
  simp [Chain.owed, NoteBook.total, h.unconsumed]

/-- A wallet can output a note only if it holds the amount. -/
theorem Outputs.le_vault {c : ClientId} {amount : ℕ} (h : Outputs c a n s s') (ha : ¬ a.isFaucet = true)
    (hn : n.asset = ⟨f, amount⟩) : amount ≤ s.vault a f := by
  have hcan := h.2.1
  rw [CanOutput, if_neg ha, hn] at hcan
  exact hcan

/-- A wallet that outputs a note pays for it. -/
theorem Moved.vault_paid {amount : ℕ} (h : Moved a n s s') (ha : ¬ a.isFaucet = true) (hn : n.asset = ⟨f, amount⟩)
    (hle : amount ≤ s.vault a f) (X : AccountId) :
    s'.vault X f + (if X = a then amount else 0) = s.vault X f := by
  have hval : n.value f = amount := by rw [n.value_apply, hn, if_pos rfl]
  rw [h.vault, if_neg ha]
  by_cases hX : X = a
  · subst hX
    rw [debit_self, Pi.sub_apply, hval, if_pos rfl]
    exact Nat.sub_add_cancel hle
  · rw [debit_of_ne _ _ hX, if_neg hX, add_zero]

theorem Collected.owed (h : Collected a ns s s') : s.owed f X = s'.owed f X + (ns.map (Note.owedTo f X)).sum := by
  simp only [Chain.owed, NoteBook.total, h.unconsumed]
  exact sum_map_split _ s.notes.nodup_unconsumed h.nodup h.subset

/-- Notes that pay `a` and no one else: what they carry is what they owe to `a`. -/
theorem sum_owedTo {f a : AccountId} {ns : List Note}
    (h : ∀ n ∈ ns, n.script = .p2id ∧ n.target = a ∧ n.asset.faucetId = f) (X : AccountId) :
    (ns.map (Note.owedTo f X)).sum = if X = a then (ns.map Note.value).sum f else 0 := by
  induction ns with
  | nil => simp
  | cons n ns ih =>
    obtain ⟨hp, ht, hf⟩ := h n List.mem_cons_self
    have hrest := ih fun m hm => h m (List.mem_cons_of_mem _ hm)
    rw [List.map_cons, List.sum_cons, hrest, List.map_cons, List.sum_cons, Pi.add_apply, n.value_apply, if_pos hf.symm]
    by_cases hX : X = a
    · simp [Note.owedTo, hp, ht, hf, hX]
    · simp [Note.owedTo, hp, ht, hf, hX, Ne.symm hX]

/-! ## What the reads answer -/

section Reads

variable {P : Params} {me : ClientId} {env : Env} {k : ℕ}

theorem run_getAccount (hf : env.fails k = false) (ha : a ∈ s.accounts) :
    Op.run ((chainClient P me env).getAccount a) ⟨s, k⟩ = (.ok (some (.full (s.account P a))), ⟨s, k + 1⟩) := by
  rw [chainClient_getAccount]
  exact Env.run_read_ok.2 ⟨hf, by rw [if_pos ha], rfl⟩

/-- `read_balance` answers the vault balance. -/
theorem readBalance_chain (hk : env.fails k = false) (ha : a ∈ s.accounts) (hf : f.isFaucet = true) :
    Op.run (readBalance (chainClient P me env) a f) ⟨s, k⟩ = (.ok (s.vault a f), ⟨s, k + 1⟩) :=
  run_readBalance (run_getAccount hk ha) (by simp [account, hf])

/-- `read_total_supply` answers the first element of the sysdata word. -/
theorem readTotalSupply_chain (hs : Sound P s) (hk : env.fails k = false) (hf : f ∈ s.accounts)
    (hff : f.isFaucet = true) :
    ∃ t, Op.run (readTotalSupply (chainClient P me env) f) ⟨s, k⟩ = (.ok t, ⟨s, k + 1⟩) ∧
      t.toNat = P.supplyRead (s.issuance f) :=
  ⟨_, run_readTotalSupply (run_getAccount hk hf) (w := P.sysdata (s.issuance f)) (by simp [account, hff]),
    P.sysdata_first ((hs.issuance_le f).trans (hs.maxSupply_le f))⟩

end Reads

end Chain

open Chain

/-! ## The two levels -/

/-- One issuer and the wallets that one client tracks. -/
structure Bank where
  issuer : AccountId
  wallets : Finset AccountId
  issuer_isFaucet : issuer.isFaucet = true
  not_isFaucet : ∀ X ∈ wallets, X.isFaucet = false

/-- The call is about the bank's issuer and wallets: mints to a wallet, transfers between wallets (or of a wallet to
itself), consumptions of a wallet, burns from a wallet. -/
def Bank.Serves (B : Bank) : TokenCall → Prop
  | .mint i t _ => i = B.issuer ∧ t ∈ B.wallets
  | .transfer snd rcp i _ => snd ∈ B.wallets ∧ rcp ∈ B.wallets ∧ i = B.issuer
  | .consume a => a ∈ B.wallets
  | .burn snd i _ => snd ∈ B.wallets ∧ i = B.issuer

/-- The chain with one client and no one else: calls of the bank that end well, from a fresh chain. -/
def bankRuns (P : Params) (me : ClientId) (B : Bank) : System Chain TokenCall where
  init s := Fresh P s ∧ s.accounts = insert B.issuer B.wallets
  step s call s' := B.Serves call ∧
    ∃ env k, Op.run (call.op (chainClient P me env)) ⟨s, 0⟩ = (.ok (), ⟨s', k⟩)

/-- The atomic ledger. It lets nobody spend more than the balance. -/
def atomicLedger : System (Ledger AccountId) TokenCall where
  init L := L = .empty
  step L call L' := match call with
    | .mint _ t n => L' = L.mint t n
    | .transfer snd rcp _ n => n ≤ L.balance snd ∧ L' = L.transfer snd rcp n
    | .consume _ => L' = L
    | .burn snd _ n => n ≤ L.balance snd ∧ L' = L.burn snd n

/-- The chain implements the ledger. -/
structure Refines (P : Params) (B : Bank) (s : Chain) (L : Ledger AccountId) : Prop where
  sound : Sound P s
  accounts : s.accounts = insert B.issuer B.wallets
  tidy : ∀ n ∈ s.notes.unconsumed, n.script = .p2id ∧ n.target ∈ B.wallets ∧ n.asset.faucetId = B.issuer
  balance : ∀ X, s.vault X B.issuer + s.owed B.issuer X = L.balance X
  supply : s.issuance B.issuer = L.supply
  balanced : L.Balanced B.wallets

section Steps

variable {P : Params} {me : ClientId} {env : Env} {B : Bank} {s s' : Chain} {k : ℕ} {L : Ledger AccountId}
  {a snd rcp : AccountId} {n : ℕ}

/-- No burn note is waiting for the issuer. -/
theorem Refines.outstanding_nil (h : Refines P B s L) : s.outstanding B.issuer = [] := by
  refine List.eq_nil_iff_forall_not_mem.2 fun m hm => ?_
  obtain ⟨hun, hcb⟩ := mem_outstanding.1 hm
  obtain ⟨hscript, -, -⟩ := Note.of_consumableBy_faucet hcb B.issuer_isFaucet
  rw [(h.tidy m hun).1] at hscript
  cases hscript

/-- Value paid to `t` in a new note is on its way to `t`, and to no one else. -/
theorem owedTo_payNote (snd t X : AccountId) (f : AccountId) :
    (s.payNote snd t ⟨f, n⟩ .priv).owedTo f X = if X = t then n else 0 := by
  simp [Note.owedTo, payNote, eq_comm]

/-- A new pay-to-id note for a wallet keeps the book tidy. -/
theorem Refines.tidy_append (h : Refines P B s L) {m : Note} (hun : s'.notes.unconsumed = s.notes.unconsumed ++ [m])
    (hm : m.script = .p2id ∧ m.target ∈ B.wallets ∧ m.asset.faucetId = B.issuer) :
    ∀ m ∈ s'.notes.unconsumed, m.script = .p2id ∧ m.target ∈ B.wallets ∧ m.asset.faucetId = B.issuer := by
  intro m' hm'
  rw [hun, List.mem_append, List.mem_singleton] at hm'
  rcases hm' with hm' | rfl
  · exact h.tidy m' hm'
  · exact hm

theorem Refines.mint {t : AccountId} (h : Refines P B s L) (hs : Sound P s') (ht : t ∈ B.wallets)
    (hm : Moved B.issuer (s.payNote B.issuer t ⟨B.issuer, n⟩ .priv) s s') : Refines P B s' (L.mint t n) where
  sound := hs
  accounts := hm.accounts.trans h.accounts
  tidy := h.tidy_append hm.unconsumed ⟨rfl, ht, rfl⟩
  balance X := by
    have hbal := h.balance X
    rw [hm.vault, if_pos B.issuer_isFaucet, hm.owed, owedTo_payNote, Ledger.mint_balance]
    omega
  supply := by
    rw [hm.issuance, if_pos B.issuer_isFaucet, credit_self, h.supply]
    rfl
  balanced := h.balanced.mint ht n

theorem Refines.transfer (h : Refines P B s L) (hs : Sound P s') (hsnd : snd ∈ B.wallets) (hrcp : rcp ∈ B.wallets)
    (hn : n ≤ s.vault snd B.issuer) (hm : Moved snd (s.payNote snd rcp ⟨B.issuer, n⟩ .priv) s s') :
    n ≤ L.balance snd ∧ Refines P B s' (L.transfer snd rcp n) := by
  have hle : n ≤ L.balance snd := by
    have hbal := h.balance snd
    omega
  have hw : ¬ snd.isFaucet = true := by simp [B.not_isFaucet snd hsnd]
  refine ⟨hle, hs, hm.accounts.trans h.accounts, h.tidy_append hm.unconsumed ⟨rfl, hrcp, rfl⟩, fun X => ?_, ?_,
    h.balanced.transfer hsnd hrcp hle⟩
  · have hbal := h.balance X
    have hvault := hm.vault_paid hw rfl hn X
    have hdebit := debit_add_apply L.balance snd hle X
    rw [hm.owed, owedTo_payNote, Ledger.transfer_balance]
    omega
  · rw [hm.issuance, if_neg hw, h.supply]
    rfl

theorem Refines.consume {ns : List Note} (h : Refines P B s L) (hs : Sound P s') (ha : a ∈ B.wallets)
    (hc : Collected a ns s s') : Refines P B s' L := by
  have hw : ¬ a.isFaucet = true := by simp [B.not_isFaucet a ha]
  have hns : ∀ m ∈ ns, m.script = .p2id ∧ m.target = a ∧ m.asset.faucetId = B.issuer := by
    intro m hm
    obtain ⟨hscript, -, hfaucet⟩ := h.tidy m (hc.subset hm)
    exact ⟨hscript, Note.target_of_consumableBy (hc.consumableBy m hm) (by rw [hscript]; rfl), hfaucet⟩
  refine ⟨hs, hc.accounts.trans h.accounts, fun m hm => ?_, fun X => ?_, ?_, h.balanced⟩
  · rw [hc.unconsumed, List.mem_filter] at hm
    exact h.tidy m hm.1
  · -- what the notes carried is now in the vault
    rw [← h.balance X, hc.owed (f := B.issuer) (X := X), sum_owedTo hns X, hc.vault, if_neg hw]
    by_cases hX : X = a
    · subst hX
      rw [credit_self, Pi.add_apply, if_pos rfl]
      omega
    · rw [credit_of_ne _ _ hX, if_neg hX]
      omega
  · rw [hc.issuance, if_neg hw, h.supply]

theorem Refines.burn (h : Refines P B s L) {u : Session Chain} (hs : Sound P u.state) (hsnd : snd ∈ B.wallets)
    (hrun : Op.run (burnTokens (chainClient P me env) snd B.issuer n) ⟨s, 0⟩ = (.ok (), u)) :
    n ≤ L.balance snd ∧ Refines P B u.state (L.burn snd n) := by
  obtain ⟨-, s₁, s₂, hout, hsync, -, hu⟩ := burn_own h.outstanding_nil hrun
  have hw : ¬ snd.isFaucet = true := by simp [B.not_isFaucet snd hsnd]
  have hm : Moved snd (s.burnNote snd B.issuer ⟨B.issuer, n⟩) s s₁ := hout.moved
  have hn : n ≤ s.vault snd B.issuer := hout.le_vault hw rfl
  have hle : n ≤ L.balance snd := by
    have hbal := h.balance snd
    omega
  -- the burn note came and went
  have hun : u.state.notes.unconsumed = s.notes.unconsumed := by
    have hnew := NoteBook.notMem_unconsumed (n := s.burnNote snd B.issuer ⟨B.issuer, n⟩) s.notes.nextId_notMem
    rw [hu, afterConsume, NoteBook.unconsumed_markConsumed, hsync.notes.unconsumed_eq, hm.unconsumed,
      List.filter_append]
    simp only [List.mem_singleton, List.filter_singleton, decide_not, decide_true, Bool.not_true, cond_false,
      List.append_nil]
    refine List.filter_eq_self.2 fun m hmem => ?_
    have hne : m ≠ s.burnNote snd B.issuer ⟨B.issuer, n⟩ := fun he => hnew (he ▸ hmem)
    simpa using hne
  have howed : ∀ X, u.state.owed B.issuer X = s.owed B.issuer X := fun X => by
    simp only [owed, NoteBook.total, hun]
  refine ⟨hle, hs, ?_, hun ▸ h.tidy, fun X => ?_, ?_, h.balanced.burn hsnd hle⟩
  · rw [hu, ← h.accounts, ← hm.accounts, ← hsync.accounts]
    rfl
  · have hbal := h.balance X
    have hvault := hm.vault_paid hw rfl hn X
    have hdebit := debit_add_apply L.balance snd hle X
    have hu' : u.state.vault = s₁.vault := by
      rw [hu, ← hsync.vault]
      exact if_pos B.issuer_isFaucet
    rw [hu', howed, Ledger.burn_balance]
    omega
  · rw [hu, Ledger.burn_supply, ← h.supply]
    simp only [afterConsume, B.issuer_isFaucet, if_true, debit_self, amountOf_burnNote, hsync.issuance, hm.issuance,
      if_neg hw]

/-- A call of the bank that ends well is matched by the ledger. -/
theorem Refines.step {call : TokenCall} (h : Refines P B s L) (hstep : (bankRuns P me B).step s call s') :
    ∃ L', atomicLedger.step L call L' ∧ Refines P B s' L' := by
  obtain ⟨hserves, env, k, hrun⟩ := hstep
  have hs : Sound P s' := (call.op_keeps Chain.Sound.keeps).of_run hrun h.sound
  cases call with
  | mint i t n =>
    obtain ⟨rfl, ht⟩ := hserves
    exact ⟨_, rfl, h.mint hs ht (mintTokens_chain hrun).2.2.moved⟩
  | transfer snd rcp i n =>
    obtain ⟨hsnd, hrcp, rfl⟩ := hserves
    have hout := (transferTokens_chain hrun).2.2
    have hn : n ≤ s.vault snd B.issuer := hout.le_vault (by simp [B.not_isFaucet snd hsnd]) rfl
    obtain ⟨hle, hR⟩ := h.transfer hs hsnd hrcp hn hout.moved
    exact ⟨_, ⟨hle, rfl⟩, hR⟩
  | consume a =>
    obtain ⟨ns, hns⟩ := (consumeAvailable_chain hrun).collected
    exact ⟨_, rfl, h.consume hs hserves hns⟩
  | burn snd i n =>
    obtain ⟨hsnd, rfl⟩ := hserves
    obtain ⟨hle, hR⟩ := h.burn (u := ⟨s', k⟩) hs hsnd hrun
    exact ⟨_, ⟨hle, rfl⟩, hR⟩

/-- **The chain simulates the ledger.** -/
theorem refines_ledger : Simulation (bankRuns P me B) atomicLedger (Refines P B) where
  init := by
    rintro s ⟨hfresh, hacc⟩
    refine ⟨.empty, rfl, hfresh.sound, hacc, ?_, fun X => ?_, ?_, Ledger.balanced_empty⟩
    · intro m hm
      rw [hfresh.notes] at hm
      cases hm
    · rw [hfresh.vault, owed, hfresh.notes]
      rfl
    · rw [hfresh.issuance]
      rfl
  step := fun h hstep => h.step hstep

/-! ## What the reads say of the ledger -/

/-- What the call issues. -/
def TokenCall.minted : TokenCall → ℕ
  | .mint _ _ n => n
  | _ => 0

/-- What the call takes off the issuance. -/
def TokenCall.burnt : TokenCall → ℕ
  | .burn _ _ n => n
  | _ => 0

theorem Refines.issued {call : TokenCall} (h : Refines P B s L) (hstep : (bankRuns P me B).step s call s') :
    s'.issuance B.issuer + call.burnt = s.issuance B.issuer + call.minted := by
  obtain ⟨hserves, env, k, hrun⟩ := hstep
  cases call with
  | mint i t n =>
    obtain ⟨rfl, -⟩ := hserves
    rw [(mintTokens_chain hrun).2.2.moved.issuance, if_pos B.issuer_isFaucet, credit_self]
    rfl
  | transfer snd rcp i n =>
    have hw : ¬ snd.isFaucet = true := by simp [B.not_isFaucet snd hserves.1]
    rw [(transferTokens_chain hrun).2.2.moved.issuance, if_neg hw]
    rfl
  | consume a =>
    have hw : ¬ a.isFaucet = true := by simp [B.not_isFaucet a hserves]
    obtain ⟨ns, hns⟩ := (consumeAvailable_chain hrun).collected
    rw [hns.issuance, if_neg hw]
    rfl
  | burn snd i n =>
    obtain ⟨hsnd, rfl⟩ := hserves
    have hnil : (⟨s, 0⟩ : Session Chain).state.outstanding B.issuer = [] := h.outstanding_nil
    have hburn : Op.run (burnTokens (chainClient P me env) snd B.issuer n) ⟨s, 0⟩ = (.ok (), ⟨s', k⟩) := hrun
    exact (burn_exact (B.not_isFaucet snd hsnd) hnil hburn).2

/-- Along a run, the issuance changes by what is minted and burnt. -/
theorem Refines.run_issued {calls : List TokenCall} (hrun : Run (bankRuns P me B) s calls s') :
    ∀ {L}, Refines P B s L → s'.issuance B.issuer + (calls.map TokenCall.burnt).sum =
      s.issuance B.issuer + (calls.map TokenCall.minted).sum := by
  induction hrun with
  | nil s => exact fun _ => rfl
  | cons hstep _ ih =>
    intro L h
    obtain ⟨L', -, h'⟩ := h.step hstep
    have hone := h.issued hstep
    have hrest := ih h'
    simp only [List.map_cons, List.sum_cons]
    omega

/-- For every wallet, `read_balance` with what is on the way to the wallet is its ledger balance. -/
def BalancesAgree (P : Params) (me : ClientId) (B : Bank) (s : Chain) (L : Ledger AccountId) : Prop :=
  ∀ X ∈ B.wallets, ∀ env k, env.fails k = false → ∃ b,
    Op.run (readBalance (chainClient P me env) X B.issuer) ⟨s, k⟩ = (.ok b, ⟨s, k + 1⟩) ∧
      b + s.owed B.issuer X = L.balance X

/-- `read_total_supply` answers the ledger's supply. -/
def SupplyAgrees (P : Params) (me : ClientId) (B : Bank) (s : Chain) (L : Ledger AccountId) : Prop :=
  ∀ env k, env.fails k = false → ∃ t,
    Op.run (readTotalSupply (chainClient P me env) B.issuer) ⟨s, k⟩ = (.ok t, ⟨s, k + 1⟩) ∧ t.toNat = L.supply

/-- The supply is the sum of all balances, and at most the maximum supply. -/
def SupplyBounded (B : Bank) (s : Chain) (L : Ledger AccountId) : Prop :=
  L.supply = ∑ X ∈ B.wallets, L.balance X ∧ L.supply ≤ s.maxSupply B.issuer

/-- The atomic ledger on which the same calls ran is what the reads say. -/
def LedgerRefined (P : Params) (me : ClientId) (B : Bank) (calls : List TokenCall) (s : Chain) : Prop :=
  ∃ L, Run atomicLedger .empty calls L ∧ BalancesAgree P me B s L ∧ SupplyAgrees P me B s L ∧ SupplyBounded B s L

/-- Balances that both agree with what is read are the same. -/
theorem BalancesAgree.eq {L' : Ledger AccountId} (h : BalancesAgree P me B s L) (h' : BalancesAgree P me B s L')
    {X : AccountId} (hX : X ∈ B.wallets) : L.balance X = L'.balance X := by
  obtain ⟨b, hb, hsum⟩ := h X hX (.steady none) 0 rfl
  obtain ⟨b', hb', hsum'⟩ := h' X hX (.steady none) 0 rfl
  rw [hb] at hb'
  cases hb'
  exact hsum.symm.trans hsum'

/-- The supply that is read is the ledger's if it is kept where it is read, or there is none. -/
theorem Refines.supplyAgrees_iff (h : Refines P B s L) :
    SupplyAgrees P me B s L ↔ P.issuanceElement.val = 0 ∨ L.supply = 0 := by
  have hissuer : B.issuer ∈ s.accounts := h.accounts ▸ Finset.mem_insert_self _ _
  have hread : ∀ env k, env.fails k = false → ∃ t,
      Op.run (readTotalSupply (chainClient P me env) B.issuer) ⟨s, k⟩ = (.ok t, ⟨s, k + 1⟩) ∧
        t.toNat = P.supplyRead L.supply := fun env k hk =>
    h.supply ▸ readTotalSupply_chain h.sound hk hissuer B.issuer_isFaucet
  constructor
  · intro hagree
    obtain ⟨t, ht, hval⟩ := hread (.steady none) 0 rfl
    obtain ⟨t', ht', hval'⟩ := hagree (.steady none) 0 rfl
    rw [ht] at ht'
    cases ht'
    rw [hval', Params.supplyRead] at hval
    split at hval
    · exact .inl ‹_›
    · exact .inr hval
  · intro hcond env k hk
    obtain ⟨t, ht, hval⟩ := hread env k hk
    refine ⟨t, ht, hval.trans ?_⟩
    rcases hcond with hfirst | hzero
    · rw [Params.supplyRead, if_pos hfirst]
    · rw [Params.supplyRead, hzero, ite_self]

/-- **Ledger refinement.** After any sequence of calls of the bank that all end well, from a fresh chain and under every
block schedule, there is a run of the atomic ledger with the same calls; for every wallet, `read_balance` with what is
on the way to the wallet is its ledger balance; the supply is the sum of all balances and at most the maximum supply.
What `read_total_supply` answers is that supply if and only if the protocol keeps the issuance in the first element of
the sysdata word, or as much was burnt as was minted. -/
theorem run_refines_ledger {s₀ : Chain} {calls : List TokenCall} (hinit : (bankRuns P me B).init s₀)
    (hrun : Run (bankRuns P me B) s₀ calls s) :
    (∃ L, Run atomicLedger .empty calls L ∧ BalancesAgree P me B s L ∧ SupplyBounded B s L) ∧
      (LedgerRefined P me B calls s ↔ P.issuanceElement.val = 0 ∨
        (calls.map TokenCall.minted).sum = (calls.map TokenCall.burnt).sum) := by
  obtain ⟨L₀, rfl, hR₀⟩ := refines_ledger.init hinit
  obtain ⟨L, hL, hR⟩ := refines_ledger.run hrun hR₀
  have hacc : ∀ X ∈ B.wallets, X ∈ s.accounts := fun X hX => hR.accounts ▸ Finset.mem_insert_of_mem hX
  have hbalances : BalancesAgree P me B s L := fun X hX env k hk =>
    ⟨_, readBalance_chain hk (hacc X hX) B.issuer_isFaucet, hR.balance X⟩
  have hbounded : SupplyBounded B s L := ⟨hR.balanced.symm, hR.supply ▸ hR.sound.issuance_le _⟩
  have hissued := hR₀.run_issued hrun
  have hzero : L.supply = 0 ↔ (calls.map TokenCall.minted).sum = (calls.map TokenCall.burnt).sum := by
    have hstart := hR₀.supply
    have hend := hR.supply
    simp only [Ledger.empty] at hstart
    omega
  refine ⟨⟨L, hL, hbalances, hbounded⟩, ?_⟩
  have hagrees : SupplyAgrees P me B s L ↔ P.issuanceElement.val = 0 ∨ L.supply = 0 := hR.supplyAgrees_iff
  rw [← hzero, ← hagrees]
  constructor
  · -- any ledger that agrees with the reads has these balances, so this supply
    rintro ⟨L', -, hbalances', hsupply', hbounded'⟩
    have hsame : L'.supply = L.supply := by
      rw [hbounded'.1, hbounded.1]
      exact Finset.sum_congr rfl fun X hX => hbalances'.eq hbalances hX
    exact fun env k hk => hsame ▸ hsupply' env k hk
  · intro hsupply
    exact ⟨L, hL, hbalances, hsupply, hbounded⟩

end Steps

/-! ## A day of two wallets -/

namespace TwoWallets

open LeftoverBurn

def bob : AccountId := ⟨false, 3⟩

def bank : Bank := ⟨issuer, {alice, bob}, issuer_isFaucet, by decide⟩

/-- Every sync includes all pending notes, and no call fails. -/
def env : Env := .steady (some fun _ => true)

def after (s : Chain) (call : TokenCall) : Chain := (Op.run (call.op (chainClient .protocol 0 env)) ⟨s, 0⟩).2.state

def opened : Chain := genesis {issuer, alice, bob} fun _ => 1000

/-- Alice gets 100 and has consumed it. -/
def morning : Chain := after (after opened (.mint issuer alice 100)) (.consume alice)

/-- She has paid 30 of it to Bob. -/
def noon : Chain := after (after morning (.transfer alice bob issuer 30)) (.consume bob)

/-- Both have burnt what they had. -/
def evening : Chain := after (after noon (.burn alice issuer 70)) (.burn bob issuer 30)

theorem run_morning :
    Run (bankRuns .protocol 0 bank) opened [.mint issuer alice 100, .consume alice] morning :=
  .cons ⟨⟨rfl, by decide⟩, env, _, rfl⟩ (.cons ⟨(by decide : alice ∈ bank.wallets), env, _, rfl⟩ (.nil _))

theorem run_noon :
    Run (bankRuns .protocol 0 bank) morning [.transfer alice bob issuer 30, .consume bob] noon :=
  .cons ⟨⟨by decide, by decide, rfl⟩, env, _, rfl⟩ (.cons ⟨(by decide : bob ∈ bank.wallets), env, _, rfl⟩ (.nil _))

theorem run_evening :
    Run (bankRuns .protocol 0 bank) noon [.burn alice issuer 70, .burn bob issuer 30] evening :=
  .cons ⟨⟨by decide, rfl⟩, env, _, rfl⟩ (.cons ⟨⟨by decide, rfl⟩, env, _, rfl⟩ (.nil _))

end TwoWallets

open LeftoverBurn TwoWallets

/-- At the end of the day, when all is burnt, the reads say what the ledger says. -/
theorem ledger_of_evening : LedgerRefined .protocol 0 bank
    [.mint issuer alice 100, .consume alice, .transfer alice bob issuer 30, .consume bob, .burn alice issuer 70,
      .burn bob issuer 30] evening :=
  (run_refines_ledger ⟨fresh_genesis fun _ => by decide, rfl⟩
    (run_morning.append (run_noon.append run_evening))).2.2 (.inr rfl)

/-- After the mint and the consumption, Alice has the 100, but the supply that is read is 0. -/
theorem supply_not_read : Run (bankRuns .protocol 0 bank) opened [.mint issuer alice 100, .consume alice] morning ∧
    morning.vault alice issuer = 100 ∧ morning.issuance issuer = 100 ∧
    (Op.run (readTotalSupply (chainClient .protocol 0 env) issuer) ⟨morning, 0⟩).1 = .ok 0 ∧
    ¬ LedgerRefined .protocol 0 bank [.mint issuer alice 100, .consume alice] morning := by
  refine ⟨run_morning, by decide, by decide, rfl, ?_⟩
  rintro ⟨L, -, hbalances, hsupply, hsum, -⟩
  obtain ⟨b, hb, halice⟩ := hbalances alice (by decide) env 0 rfl
  obtain ⟨t, ht, htotal⟩ := hsupply env 0 rfl
  have hread : b = 100 := by
    cases hb
    decide
  have hzero : t.toNat = 0 := by
    cases ht
    rfl
  have hle : L.balance alice ≤ L.supply := by
    rw [hsum]
    exact Finset.single_le_sum (fun _ _ => Nat.zero_le _) (by decide)
  omega

end BraleMiden
