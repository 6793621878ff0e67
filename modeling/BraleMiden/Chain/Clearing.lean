import BraleMiden.Lib.Clearing
import BraleMiden.Chain.Refinement

/-!
# The ledger behind a bank

The atomic ledger explains calls that end well, with nobody else on the chain. Here the issuer and the wallets of a bank
share the chain with accounts that do what they like, and burn notes may be left over. Then the chain implements a
clearing ledger: the output of a burn note requests its amount, and a later transaction of the issuer settles it.

* `Bank.Closed`: the token of the bank is held by its wallets, and carried by notes between its accounts only;
* `Clears`: the relation of the chain to the ledger;
* `Clears.mint`, `Clears.transfer`, `Clears.request`: what the outputs of the bank are entered as;
* `Clears.collect`, `Clears.settle`: what the consumptions of a wallet and of the issuer are entered as;
* `Clears.outside`: no transaction of another account changes what the ledger says.
-/

namespace BraleMiden

open Effects Systems Accounting

/-- What the note takes off the issuance when `f` consumes it. -/
def Note.burnedBy (f : AccountId) (n : Note) : ℕ := if n.consumableBy f = true then n.asset.amount else 0

/-- Only burn notes addressed to the faucet `f` burn something of it. -/
theorem Note.burnedBy_of_not {f : AccountId} {n : Note} (hf : f.isFaucet = true)
    (h : n.script = .burn → n.target ≠ f) : n.burnedBy f = 0 := by
  unfold burnedBy
  split
  · rename_i hc
    obtain ⟨hscript, ht, -⟩ := of_consumableBy_faucet hc hf
    exact absurd ht (h hscript)
  · rfl

namespace Chain

variable {s s' : Chain} {a f X : AccountId} {n : Note} {ns : List Note}

/-- The unconsumed burn notes of `f` together. -/
def burning (s : Chain) (f : AccountId) : ℕ := s.notes.total (Note.burnedBy f)

theorem Moved.total_eq (h : Moved a n s s') (g : Note → ℕ) : s'.notes.total g = s.notes.total g + g n := by
  simp [NoteBook.total, h.unconsumed]

theorem Collected.total_eq (h : Collected a ns s s') (g : Note → ℕ) :
    s.notes.total g = s'.notes.total g + (ns.map g).sum := by
  simp only [NoteBook.total, h.unconsumed]
  exact sum_map_split g s.notes.nodup_unconsumed h.nodup h.subset

/-- Notes that weigh nothing under `g`. -/
theorem Collected.total_of_zero (h : Collected a ns s s') {g : Note → ℕ} (hg : ∀ n ∈ ns, g n = 0) :
    s'.notes.total g = s.notes.total g := by
  have hzero : (ns.map g).sum = 0 := List.sum_eq_zero (by simpa using hg)
  rw [h.total_eq g, hzero, add_zero]

/-! ### The notes that a call consumes -/

/-- The notes that are consumed in `s'` and were not in `s`. -/
def taken (s s' : Chain) : List Note := s'.notes.consumed.filter fun n => !decide (s.notes.IsConsumed n)

theorem mem_taken : n ∈ s.taken s' ↔ s'.notes.IsConsumed n ∧ ¬ s.notes.IsConsumed n := by
  simp [taken, NoteBook.mem_consumed]

/-- A new note is not a consumed one. -/
theorem Outputs.taken_eq {c : ClientId} {t : Chain} (h : Outputs c a n s s') : s'.taken t = s.taken t := by
  obtain ⟨-, -, hid, rfl⟩ := h
  unfold taken
  refine List.filter_congr fun m _ => congrArg not (decide_eq_decide.2 ?_)
  exact NoteBook.isConsumed_insert (h := hid)

/-- The notes that are collected are those that are taken. -/
theorem Collected.amountOf_taken (h : Collected a ns s s') : amountOf (s.taken s') = amountOf ns := by
  have hperm : (s.taken s').Perm ns := by
    refine (List.perm_ext_iff_of_nodup (s'.notes.nodup_consumed.filter _) h.nodup).2 fun n => mem_taken.trans ?_
    rw [h.consumed n]
    constructor
    · rintro ⟨hold | hn, hnot⟩
      · exact absurd hold hnot
      · exact hn
    · exact fun hn => ⟨.inr hn, NoteBook.not_isConsumed (h.subset hn)⟩
  exact (hperm.map _).sum_eq

end Chain

open Chain

/-! ## The notes of a bank -/

namespace Bank

variable {B : Bank} {n : Note} {a X : AccountId}

/-- The issuer and the wallets. -/
def accounts (B : Bank) : Finset AccountId := insert B.issuer B.wallets

/-- The note carries nothing of the bank's token. -/
def Foreign (B : Bank) (n : Note) : Prop := n.asset.faucetId = B.issuer → n.asset.amount = 0

/-- The note pays a wallet of the bank, or is a burn note for its issuer. -/
def Carries (B : Bank) (n : Note) : Prop :=
  n.script = .p2id ∧ n.target ∈ B.wallets ∨ n.script = .burn ∧ n.target = B.issuer

theorem issuer_notMem (B : Bank) : B.issuer ∉ B.wallets := by
  intro h
  have hw := B.not_isFaucet _ h
  rw [B.issuer_isFaucet] at hw
  cases hw

/-- The issuer's vault takes part in nothing. -/
theorem ne_issuer (h : X ∈ B.wallets) : X ≠ B.issuer := fun he => B.issuer_notMem (he ▸ h)

theorem value_of_foreign (h : B.Foreign n) : n.value B.issuer = 0 := by
  rw [n.value_apply]
  split
  · rename_i hf
    exact h hf.symm
  · rfl

theorem owedTo_of_foreign (h : B.Foreign n) (X : AccountId) : n.owedTo B.issuer X = 0 := by
  unfold Note.owedTo
  split
  · rename_i hp
    exact h hp.2.2
  · rfl

theorem burnedBy_of_foreign (h : B.Foreign n) : n.burnedBy B.issuer = 0 := by
  unfold Note.burnedBy
  split
  · rename_i hc
    exact h (Note.of_consumableBy_faucet hc B.issuer_isFaucet).2.2
  · rfl

/-- What carries the bank's token is never taken back by its sender. -/
theorem Carries.isP2ide (h : B.Carries n) : n.script.isP2ide = false := by
  rcases h with ⟨hp, -⟩ | ⟨hb, -⟩
  · rw [hp]
    rfl
  · rw [hb]
    rfl

/-- A note that someone else can consume carries nothing of the bank's token. -/
theorem foreign_of_outside (h : B.Foreign n ∨ B.Carries n) (ha : a ∉ B.accounts) (hc : n.consumableBy a = true) :
    B.Foreign n := by
  simp only [accounts, Finset.mem_insert, not_or] at ha
  rcases h with h | hcarries
  · exact h
  · have ht : n.target = a := Note.target_of_consumableBy hc hcarries.isP2ide
    rcases hcarries with ⟨-, hw⟩ | ⟨-, hi⟩
    · exact absurd (ht ▸ hw) ha.2
    · exact absurd (ht.symm.trans hi) ha.1

/-- What a wallet consumes was owed to it, and to no one else. -/
theorem owedTo_of_wallet (h : B.Foreign n ∨ B.Carries n) (ha : a ∈ B.wallets) (hc : n.consumableBy a = true)
    (X : AccountId) : n.owedTo B.issuer X = if X = a then n.value B.issuer else 0 := by
  rcases h with h | ⟨hp, -⟩ | ⟨hb, -⟩
  · rw [owedTo_of_foreign h, value_of_foreign h, ite_self]
  · have ht : n.target = a := Note.target_of_consumableBy hc (by rw [hp]; rfl)
    by_cases hX : X = a
    · simp [Note.owedTo, n.value_apply, hp, ht, hX, eq_comm]
    · simp [Note.owedTo, ht, hX, Ne.symm hX]
  · exact absurd hb (Note.of_consumableBy_wallet hc (B.not_isFaucet a ha)).1

end Bank

/-! ## The token stays with the bank -/

/-- Only the wallets of the bank hold its token, and only notes between its accounts carry it. -/
structure Bank.Closed (P : Params) (B : Bank) (s : Chain) : Prop where
  sound : Sound P s
  accounts : B.accounts ⊆ s.accounts
  outsiders : ∀ X ∈ s.accounts, X ∉ B.wallets → s.vault X B.issuer = 0
  tidy : ∀ n ∈ s.notes.unconsumed, B.Foreign n ∨ B.Carries n

section Closed

variable {P : Params} {B : Bank} {s s' : Chain} {a X : AccountId} {n : Note} {ns : List Note}

theorem Bank.Closed.synced (h : B.Closed P s) (hs : Synced s s') : B.Closed P s' where
  sound := h.sound.synced hs
  accounts := hs.accounts ▸ h.accounts
  outsiders := by
    rw [hs.accounts, hs.vault]
    exact h.outsiders
  tidy := by
    rw [hs.notes.unconsumed_eq]
    exact h.tidy

/-- Nobody gains by an output. -/
theorem Chain.Moved.vault_le (h : Moved a n s s') (X f : AccountId) : s'.vault X f ≤ s.vault X f := by
  rw [h.vault]
  split
  · exact Nat.le_refl _
  · by_cases hX : X = a
    · subst hX
      rw [debit_self, Pi.sub_apply]
      exact Nat.sub_le _ _
    · rw [debit_of_ne _ _ hX]

theorem Bank.Closed.moved (h : B.Closed P s) (hs : Sound P s') (hn : B.Foreign n ∨ B.Carries n)
    (hm : Moved a n s s') : B.Closed P s' where
  sound := hs
  accounts := hm.accounts ▸ h.accounts
  outsiders := by
    intro X hX hw
    rw [hm.accounts] at hX
    have hle := hm.vault_le X B.issuer
    rw [h.outsiders X hX hw] at hle
    exact Nat.le_zero.1 hle
  tidy := by
    intro m hmem
    rw [hm.unconsumed, List.mem_append, List.mem_singleton] at hmem
    rcases hmem with hmem | rfl
    · exact h.tidy m hmem
    · exact hn

/-- What an account outside the bank consumes carries nothing of its token. -/
theorem Bank.Closed.foreign (h : B.Closed P s) (ha : a ∉ B.accounts) (hc : Collected a ns s s') :
    ∀ n ∈ ns, B.Foreign n :=
  fun n hn => B.foreign_of_outside (h.tidy n (hc.subset hn)) ha (hc.consumableBy n hn)

theorem Bank.Closed.collected (h : B.Closed P s) (hs : Sound P s') (hc : Collected a ns s s') : B.Closed P s' where
  sound := hs
  accounts := hc.accounts ▸ h.accounts
  outsiders := by
    intro X hX hw
    rw [hc.accounts] at hX
    rw [hc.vault]
    split
    · exact h.outsiders X hX hw
    · rename_i hf
      by_cases hXa : X = a
      · -- an account outside the bank
        subst hXa
        have hout : X ∉ B.accounts := by
          intro hmem
          rcases Finset.mem_insert.1 hmem with hi | hmem
          · exact hf (hi ▸ B.issuer_isFaucet)
          · exact hw hmem
        have hzero : (ns.map fun n => n.value B.issuer).sum = 0 := by
          apply List.sum_eq_zero
          simpa using fun n hn => B.value_of_foreign (h.foreign hout hc n hn)
        rw [credit_self, Pi.add_apply, sum_value_apply, hzero, h.outsiders X hX hw]
      · rw [credit_of_ne _ _ hXa]
        exact h.outsiders X hX hw
  tidy := by
    intro m hmem
    rw [hc.unconsumed, List.mem_filter] at hmem
    exact h.tidy m hmem.1

end Closed

/-! ## The chain and the ledger -/

/-- The chain implements the clearing ledger. -/
structure Clears (P : Params) (B : Bank) (s : Chain) (L : Clearing AccountId) : Prop extends B.Closed P s where
  balance : ∀ X ∈ B.wallets, s.vault X B.issuer + s.owed B.issuer X = L.balance X
  supply : s.issuance B.issuer = L.supply
  pending : s.burning B.issuer = L.pending
  balanced : L.Balanced B.wallets

section Steps

variable {P : Params} {me : ClientId} {env : Env} {B : Bank} {s s' : Chain} {L : Clearing AccountId}
  {a t : AccountId} {n : Note} {ns : List Note} {amount : ℕ}

theorem Clears.synced (h : Clears P B s L) (hs : Synced s s') : Clears P B s' L where
  toClosed := h.toClosed.synced hs
  balance X hX := by
    rw [hs.vault, owed, hs.notes.total_eq]
    exact h.balance X hX
  supply := by
    rw [hs.issuance]
    exact h.supply
  pending := by
    rw [burning, hs.notes.total_eq]
    exact h.pending
  balanced := h.balanced

/-! ### Outputs -/

/-- The note pays `amount` of the bank's token to its wallet `t`. -/
structure Bank.Payment (B : Bank) (n : Note) (t : AccountId) (amount : ℕ) : Prop where
  script : n.script = .p2id
  target : n.target = t
  asset : n.asset = ⟨B.issuer, amount⟩
  mem : t ∈ B.wallets

theorem Bank.Payment.owedTo (h : B.Payment n t amount) (X : AccountId) :
    n.owedTo B.issuer X = if X = t then amount else 0 := by
  simp [Note.owedTo, h.script, h.target, h.asset, eq_comm]

theorem Bank.Payment.burnedBy (h : B.Payment n t amount) : n.burnedBy B.issuer = 0 := by
  refine Note.burnedBy_of_not B.issuer_isFaucet fun _ => ?_
  rw [h.target]
  exact B.ne_issuer h.mem

theorem Bank.Payment.carries (h : B.Payment n t amount) : B.Carries n := .inl ⟨h.script, h.target ▸ h.mem⟩

theorem Clears.mint (h : Clears P B s L) (hs : Sound P s') (hn : B.Payment n t amount) (hm : Moved B.issuer n s s') :
    Clears P B s' (L.post (.mint t amount)) where
  toClosed := h.toClosed.moved hs (.inr hn.carries) hm
  balance X hX := by
    have hbal := h.balance X hX
    rw [hm.vault, if_pos B.issuer_isFaucet, owed, hm.total_eq, hn.owedTo]
    show _ = credit L.balance t amount X
    rw [credit_apply, ← hbal, owed]
    omega
  supply := by
    rw [hm.issuance, if_pos B.issuer_isFaucet, credit_self, h.supply, hn.asset]
    rfl
  pending := by
    rw [burning, hm.total_eq, hn.burnedBy]
    exact h.pending
  balanced := h.balanced.post hn.mem trivial

/-- What a wallet of the bank pays was in its vault. -/
theorem Clears.covered (h : Clears P B s L) (ha : a ∈ B.wallets) (hn : amount ≤ s.vault a B.issuer) :
    amount ≤ L.balance a := by
  have hbal := h.balance a ha
  omega

theorem Clears.transfer (h : Clears P B s L) (hs : Sound P s') (ha : a ∈ B.wallets) (hn : B.Payment n t amount)
    (hle : amount ≤ s.vault a B.issuer) (hm : Moved a n s s') : Clears P B s' (L.post (.transfer a t amount)) where
  toClosed := h.toClosed.moved hs (.inr hn.carries) hm
  balance X hX := by
    have hbal := h.balance X hX
    have hw : ¬ a.isFaucet = true := by simp [B.not_isFaucet a ha]
    have hvault := hm.vault_paid hw hn.asset hle X
    have hdebit := debit_add_apply L.balance a (h.covered ha hle) X
    rw [owed, hm.total_eq, hn.owedTo]
    show _ = credit (debit L.balance a amount) t amount X
    rw [credit_apply]
    rw [owed] at hbal
    omega
  supply := by
    have hw : ¬ a.isFaucet = true := by simp [B.not_isFaucet a ha]
    rw [hm.issuance, if_neg hw]
    exact h.supply
  pending := by
    rw [burning, hm.total_eq, hn.burnedBy]
    exact h.pending
  balanced := h.balanced.post ⟨ha, hn.mem⟩ (h.covered ha hle)

theorem Clears.request (h : Clears P B s L) (hs : Sound P s') (ha : a ∈ B.wallets)
    (hle : amount ≤ s.vault a B.issuer) (hm : Moved a (s.burnNote a B.issuer ⟨B.issuer, amount⟩) s s') :
    Clears P B s' (L.post (.request a amount)) where
  toClosed := h.toClosed.moved hs (.inr (.inr ⟨rfl, rfl⟩)) hm
  balance X hX := by
    have hbal := h.balance X hX
    have hw : ¬ a.isFaucet = true := by simp [B.not_isFaucet a ha]
    have hvault := hm.vault_paid hw rfl hle X
    have hdebit := debit_add_apply L.balance a (h.covered ha hle) X
    have howed : (s.burnNote a B.issuer ⟨B.issuer, amount⟩).owedTo B.issuer X = 0 := by simp [Note.owedTo, burnNote]
    rw [owed, hm.total_eq, howed]
    rw [owed] at hbal
    show _ = debit L.balance a amount X
    omega
  supply := by
    have hw : ¬ a.isFaucet = true := by simp [B.not_isFaucet a ha]
    rw [hm.issuance, if_neg hw]
    exact h.supply
  pending := by
    rw [burning, hm.total_eq, Note.burnedBy, if_pos (burnNote_consumableBy s a B.issuer_isFaucet amount)]
    exact congrArg (· + amount) h.pending
  balanced := h.balanced.post ha (h.covered ha hle)

/-! ### Consumptions -/

/-- A wallet collects what was on the way to it. -/
theorem Clears.collect (h : Clears P B s L) (hs : Sound P s') (ha : a ∈ B.wallets) (hc : Collected a ns s s') :
    Clears P B s' L where
  toClosed := h.toClosed.collected hs hc
  balance X hX := by
    have hbal := h.balance X hX
    have hw : ¬ a.isFaucet = true := by simp [B.not_isFaucet a ha]
    have howed := hc.total_eq (Note.owedTo B.issuer X)
    have hns : ns.map (Note.owedTo B.issuer X) = ns.map fun n => if X = a then n.value B.issuer else 0 :=
      List.map_congr_left fun n hn => B.owedTo_of_wallet (h.tidy n (hc.subset hn)) ha (hc.consumableBy n hn) X
    rw [hns] at howed
    rw [owed] at hbal ⊢
    rw [hc.vault, if_neg hw]
    by_cases hXa : X = a
    · subst hXa
      simp only [↓reduceIte] at howed
      rw [credit_self, Pi.add_apply, sum_value_apply]
      omega
    · have hzero : (ns.map fun _ => 0).sum = 0 := List.sum_eq_zero (by simp)
      simp only [hXa, ↓reduceIte, hzero] at howed
      rw [credit_of_ne _ _ hXa]
      omega
  supply := by
    have hw : ¬ a.isFaucet = true := by simp [B.not_isFaucet a ha]
    rw [hc.issuance, if_neg hw]
    exact h.supply
  pending := by
    have hzero : ∀ n ∈ ns, n.burnedBy B.issuer = 0 := by
      intro n hn
      have hscript := (Note.of_consumableBy_wallet (hc.consumableBy n hn) (B.not_isFaucet a ha)).1
      exact Note.burnedBy_of_not B.issuer_isFaucet fun hburn => absurd hburn hscript
    rw [burning, hc.total_of_zero hzero]
    exact h.pending
  balanced := h.balanced

/-- What the issuer consumes was pending. -/
theorem Clears.settle (h : Clears P B s L) (hs : Sound P s') (hc : Collected B.issuer ns s s') :
    amountOf ns ≤ L.pending ∧ Clears P B s' (L.post (.settle (amountOf ns))) := by
  have hburned : ns.map (Note.burnedBy B.issuer) = ns.map fun n => n.asset.amount :=
    List.map_congr_left fun n hn => by rw [Note.burnedBy, if_pos (hc.consumableBy n hn)]
  have hburning := hc.total_eq (Note.burnedBy B.issuer)
  rw [hburned] at hburning
  have hpending := h.pending
  rw [burning] at hpending
  have hle : amountOf ns ≤ L.pending := by
    unfold amountOf
    omega
  refine ⟨hle, h.toClosed.collected hs hc, ?_, ?_, ?_, h.balanced.post trivial hle⟩
  · intro X hX
    have hzero : ∀ n ∈ ns, n.owedTo B.issuer X = 0 := by
      intro n hn
      have hscript := (Note.of_consumableBy_faucet (hc.consumableBy n hn) B.issuer_isFaucet).1
      simp [Note.owedTo, hscript]
    rw [owed, hc.total_of_zero hzero, hc.vault, if_pos B.issuer_isFaucet]
    exact h.balance X hX
  · rw [hc.issuance, if_pos B.issuer_isFaucet, debit_self, h.supply]
    rfl
  · show s'.notes.total (Note.burnedBy B.issuer) = L.pending - amountOf ns
    unfold amountOf
    omega

/-! ### Everybody else -/

/-- An output of an account outside the bank carries nothing of its token. -/
theorem Bank.Closed.output_foreign {c : ClientId} (h : B.Closed P s) (ha : a ∉ B.accounts) (hout : Outputs c a n s s') :
    B.Foreign n := by
  obtain ⟨hacc, hcan, -, -⟩ := hout
  simp only [Bank.accounts, Finset.mem_insert, not_or] at ha
  intro hf
  unfold CanOutput at hcan
  split at hcan
  · exact absurd (hcan.1.symm.trans hf) ha.1
  · rw [hf, h.outsiders a hacc ha.2] at hcan
    exact Nat.le_zero.1 hcan

theorem Clears.output_outside {c : ClientId} (h : Clears P B s L) (ha : a ∉ B.accounts)
    (hout : Outputs c a n s s') : Clears P B s' L := by
  have hforeign := h.toClosed.output_foreign ha hout
  have hm := hout.moved
  have hs : Sound P s' := h.sound.submit (submit_output_iff.2 hout)
  simp only [Bank.accounts, Finset.mem_insert, not_or] at ha
  refine ⟨h.toClosed.moved hs (.inl hforeign) hm, ?_, ?_, ?_, h.balanced⟩
  · intro X hX
    have hne : X ≠ a := fun he => ha.2 (he ▸ hX)
    have hvault : s'.vault X = s.vault X := by
      rw [hm.vault]
      split
      · rfl
      · exact debit_of_ne _ _ hne
    rw [hvault, owed, hm.total_eq, B.owedTo_of_foreign hforeign]
    exact h.balance X hX
  · have hiss : s'.issuance B.issuer = s.issuance B.issuer := by
      rw [hm.issuance]
      split
      · exact credit_of_ne _ _ (Ne.symm ha.1)
      · rfl
    exact hiss.trans h.supply
  · rw [burning, hm.total_eq, B.burnedBy_of_foreign hforeign]
    exact h.pending

theorem Clears.collect_outside (h : Clears P B s L) (hs : Sound P s') (ha : a ∉ B.accounts)
    (hc : Collected a ns s s') : Clears P B s' L := by
  have hforeign := h.toClosed.foreign ha hc
  simp only [Bank.accounts, Finset.mem_insert, not_or] at ha
  refine ⟨h.toClosed.collected hs hc, ?_, ?_, ?_, h.balanced⟩
  · intro X hX
    have hne : X ≠ a := fun he => ha.2 (he ▸ hX)
    have hvault : s'.vault X = s.vault X := by
      rw [hc.vault]
      split
      · rfl
      · exact credit_of_ne _ _ hne
    rw [hvault, owed, hc.total_of_zero fun n hn => B.owedTo_of_foreign (hforeign n hn) X]
    exact h.balance X hX
  · have hiss : s'.issuance B.issuer = s.issuance B.issuer := by
      rw [hc.issuance]
      split
      · exact debit_of_ne _ _ (Ne.symm ha.1)
      · rfl
    exact hiss.trans h.supply
  · rw [burning, hc.total_of_zero fun n hn => B.burnedBy_of_foreign (hforeign n hn)]
    exact h.pending

/-- **No transaction of an account outside the bank changes what the ledger says.** -/
theorem Clears.outside {c : ClientId} {req : TransactionRequest} (h : Clears P B s L) (ha : a ∉ B.accounts)
    (hs : s.submit P c a req = .ok s') : Clears P B s' L := by
  refine submit_keeps (Q := fun s => Clears P B s L) ?_ ?_ h hs
  · intro s s' n h hacc hout
    obtain ⟨hid, hcan, hs'⟩ := outputNote_ok.1 hout
    exact h.output_outside ha ⟨hacc, hcan, hid, hs'⟩
  · intro s s' ns h hacc hcons
    exact h.collect_outside (h.sound.consume hacc hcons) ha (consume_collected hcons)

end Steps

end BraleMiden
