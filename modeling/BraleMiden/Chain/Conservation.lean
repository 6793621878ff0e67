import Mathlib.Tactic.Abel
import BraleMiden.Lib.Systems
import BraleMiden.Chain.Client

/-!
# What every history of the chain conserves

`history P me` is the system of all histories of a chain with a client `me`: token operations of `me` under any
environment, whether they end well or not, accepted transactions of other clients, and blocks.

* `Sound P`: the issuance of every issuer is what its token holders have in their vaults and in unconsumed notes, and it
  is at most the maximum supply, which is at most the protocol's maximum amount;
* `sound_of_reachable`: every reachable state is sound;
* `Sound.amountOf_le`: unconsumed burn notes of an issuer are covered by its issuance, so the kernel's check of the
  issuance never stops a burn.
-/

namespace BraleMiden

open Effects Systems Accounting

namespace Chain

/-- Value is conserved, within the bounds. -/
structure Sound (P : Params) (s : Chain) : Prop where
  value : s.issuance = ∑ a ∈ s.accounts, s.vault a + s.notes.total Note.value
  issuance_le : ∀ f, s.issuance f ≤ s.maxSupply f
  maxSupply_le : ∀ f, s.maxSupply f ≤ P.maxAmount

section Transactions

variable {P : Params} {c : ClientId} {a : AccountId} {s s' : Chain}

/-- The value at one issuer. -/
theorem Sound.value_apply (h : Sound P s) (f : AccountId) :
    s.issuance f = ∑ a ∈ s.accounts, s.vault a f + (s.notes.unconsumed.map fun n => n.value f).sum := by
  rw [h.value, Pi.add_apply, Finset.sum_apply, NoteBook.total, sum_value_apply]

/-- A holder has at most what was issued. -/
theorem Sound.vault_le (h : Sound P s) (ha : a ∈ s.accounts) (f : AccountId) : s.vault a f ≤ s.issuance f := by
  have hle : s.vault a f ≤ ∑ x ∈ s.accounts, s.vault x f :=
    Finset.single_le_sum (f := fun x => s.vault x f) (fun _ _ => Nat.zero_le _) ha
  rw [h.value_apply f]
  omega

/-- What a holder has is a valid amount. -/
theorem Sound.vault_le_maxAmount (h : Sound P s) (ha : a ∈ s.accounts) (f : AccountId) : s.vault a f ≤ P.maxAmount :=
  (h.vault_le ha f).trans ((h.issuance_le f).trans (h.maxSupply_le f))

/-- Notes that a faucet consumes carry its own asset. -/
theorem sum_value_of_faucet (ha : a.isFaucet = true) {ns : List Note} (h : ∀ n ∈ ns, n.consumableBy a = true) :
    (ns.map Note.value).sum = Pi.single a (amountOf ns) := by
  induction ns with
  | nil => simp [amountOf]
  | cons n ns ih =>
    obtain ⟨-, -, hf⟩ := Note.of_consumableBy_faucet (h n List.mem_cons_self) ha
    have hrest := ih fun m hm => h m (List.mem_cons_of_mem _ hm)
    rw [List.map_cons, List.sum_cons, hrest, Note.value, hf, ← Pi.single_add]
    rfl

/-- Unconsumed burn notes are covered by the issuance. -/
theorem Sound.amountOf_le (h : Sound P s) (ha : a.isFaucet = true) {ns : List Note} (hn : ns.Nodup)
    (hsub : ns ⊆ s.notes.unconsumed) (hc : ∀ n ∈ ns, n.consumableBy a = true) : amountOf ns ≤ s.issuance a := by
  have hsplit : s.notes.total Note.value = (s.notes.markConsumed a ns).total Note.value + (ns.map Note.value).sum :=
    NoteBook.total_markConsumed Note.value a hn hsub
  rw [sum_value_of_faucet ha hc] at hsplit
  have happ := congrFun hsplit a
  rw [Pi.add_apply, Pi.single_eq_same] at happ
  rw [h.value, Pi.add_apply]
  omega

/-! ### Every transaction and every block is sound -/

theorem Sound.outputNote {n : Note} (h : Sound P s) (ha : a ∈ s.accounts) (hs : outputNote c a s n = .ok s') :
    Sound P s' := by
  obtain ⟨hid, hcan, rfl⟩ := outputNote_ok.1 hs
  unfold CanOutput at hcan
  cases hf : a.isFaucet with
  | true =>
    rw [if_pos hf] at hcan
    have hcredit : credit s.issuance a n.asset.amount = s.issuance + n.value := by
      funext x
      rw [credit_apply, Pi.add_apply, n.value_apply, hcan.1]
    refine ⟨?_, fun f => ?_, h.maxSupply_le⟩
    · simp only [afterOutput, if_pos hf, hcredit, NoteBook.total_insert]
      rw [h.value, add_assoc]
    · simp only [afterOutput, if_pos hf, credit_apply]
      by_cases hfa : f = a
      · subst hfa; rw [if_pos rfl]; exact hcan.2
      · rw [if_neg hfa]; exact h.issuance_le f
  | false =>
    have hf' : ¬ a.isFaucet = true := by simp [hf]
    rw [if_neg hf'] at hcan
    have hcov : s.vault a - n.value + n.value = s.vault a := by
      funext f
      refine Nat.sub_add_cancel ?_
      rw [n.value_apply]
      split
      · rename_i hfa; rw [hfa]; exact hcan
      · exact Nat.zero_le _
    refine ⟨?_, ?_, h.maxSupply_le⟩
    · simp only [afterOutput, if_neg hf', NoteBook.total_insert]
      rw [h.value, ← sum_debit s.vault ha hcov]
      abel
    · simp only [afterOutput, if_neg hf']
      exact h.issuance_le

theorem Sound.consume {ns : List Note} (h : Sound P s) (ha : a ∈ s.accounts) (hs : consume P a s ns = .ok s') :
    Sound P s' := by
  obtain ⟨⟨-, hn, hready, hcov⟩, rfl⟩ := consume_ok.1 hs
  have hsub : ns ⊆ s.notes.unconsumed := fun n hmem => NoteBook.committed_subset_unconsumed (hready n hmem).1
  have hcons : ∀ n ∈ ns, n.consumableBy a = true := fun n hmem => (NoteBook.mem_committed.1 (hready n hmem).1).1
  have hsplit := NoteBook.total_markConsumed Note.value a hn hsub
  cases hf : a.isFaucet with
  | true =>
    rw [sum_value_of_faucet hf hcons] at hsplit
    refine ⟨?_, fun f => ?_, h.maxSupply_le⟩
    · funext f
      have hv := congrFun h.value f
      rw [hsplit] at hv
      simp only [Pi.add_apply, Pi.single_apply] at hv
      have hd := debit_add_apply s.issuance a (hcov hf) f
      simp only [afterConsume, if_pos hf, Pi.add_apply]
      omega
    · have hd := debit_add_apply s.issuance a (hcov hf) f
      have hle := h.issuance_le f
      simp only [afterConsume, if_pos hf]
      omega
  | false =>
    have hf' : ¬ a.isFaucet = true := by simp [hf]
    refine ⟨?_, ?_, h.maxSupply_le⟩
    · simp only [afterConsume, if_neg hf']
      rw [h.value, sum_credit s.vault _ ha, hsplit]
      abel
    · simp only [afterConsume, if_neg hf']
      exact h.issuance_le

theorem Sound.submit {req : TransactionRequest} (h : Sound P s) (hs : submit P c a req s = .ok s') : Sound P s' :=
  submit_keeps (fun h ha hs => h.outputNote ha hs) (fun h ha hs => h.consume ha hs) h hs

/-- Syncing does not touch any value. -/
theorem Sound.synced (h : Sound P s) (hs : Synced s s') : Sound P s' where
  value := by rw [hs.issuance, hs.accounts, hs.vault, hs.notes.total_eq]; exact h.value
  issuance_le f := by rw [hs.issuance, hs.maxSupply]; exact h.issuance_le f
  maxSupply_le f := by rw [hs.maxSupply]; exact h.maxSupply_le f

end Transactions

end Chain

open Chain

/-! ## Histories -/

/-- What can happen to the chain. -/
inductive Event
  | call (call : TokenCall)
  | outside (creator : ClientId) (account : AccountId) (request : TransactionRequest)
  | block (incl : NoteId → Bool)

/-- One event: an operation of `me` (however it ends), a transaction of someone else, or a block. -/
def eventStep (P : Params) (me : ClientId) (s : Chain) (ev : Event) (s' : Chain) : Prop :=
  match ev with
  | .call call => ∃ env r k, Op.run (call.op (chainClient P me env)) ⟨s, 0⟩ = (r, ⟨s', k⟩)
  | .outside creator a req => creator ≠ me ∧ s.submit P creator a req = .ok s'
  | .block incl => s' = s.produceBlock incl

/-- No token was issued yet, and no note created. -/
structure Fresh (P : Params) (s : Chain) : Prop where
  issuance : s.issuance = 0
  vault : s.vault = 0
  notes : s.notes = .empty
  maxSupply_le : ∀ f, s.maxSupply f ≤ P.maxAmount

/-- The fresh chain with the given accounts and maximum supplies. -/
def genesis (accounts : Finset AccountId) (maxSupply : AccountId → ℕ) : Chain where
  accounts := accounts
  maxSupply := maxSupply
  issuance := 0
  vault := 0
  notes := .empty
  height := 0

/-- All histories of a chain with a client `me`. -/
def history (P : Params) (me : ClientId) : System Chain Event where
  init := Fresh P
  step := eventStep P me

section Histories

variable {P : Params} {me : ClientId} {env : Env} {s s' : Chain}

theorem Fresh.sound (h : Fresh P s) : Sound P s where
  value := by simp [h.issuance, h.vault, h.notes]
  issuance_le f := by simp [h.issuance]
  maxSupply_le := h.maxSupply_le

/-- Soundness passes from a chain to what an operation leaves, however it ends. -/
theorem Chain.Sound.keeps : (chainClient P me env).Keeps (OnState (Passes (Sound P))) :=
  chainClient_keeps (fun _ _ h => h.synced (synced_sync _ _)) fun hs h => h.submit hs

theorem Chain.Sound.event (h : Sound P s) {ev : Event} (hs : eventStep P me s ev s') : Sound P s' := by
  cases ev with
  | call call =>
    obtain ⟨env, r, k, hrun⟩ := hs
    exact (call.op_keeps Chain.Sound.keeps).of_run hrun h
  | outside creator a req => exact h.submit hs.2
  | block incl =>
    cases hs
    exact h.synced (synced_sync s (some incl))

/-- **Every reachable state is sound.** -/
theorem sound_of_reachable (h : Reachable (history P me) s) : Sound P s :=
  h.invariant Fresh.sound fun h hs => h.event hs

theorem fresh_genesis {accounts : Finset AccountId} {maxSupply : AccountId → ℕ}
    (h : ∀ f, maxSupply f ≤ P.maxAmount) : Fresh P (genesis accounts maxSupply) :=
  ⟨rfl, rfl, rfl, h⟩

theorem reachable_genesis {accounts : Finset AccountId} {maxSupply : AccountId → ℕ}
    (h : ∀ f, maxSupply f ≤ P.maxAmount) : Reachable (history P me) (genesis accounts maxSupply) :=
  ⟨_, [], fresh_genesis h, .nil _⟩

/-- What an operation leaves, however it ends, is reachable. -/
theorem reachable_call (h : Reachable (history P me) s) (call : TokenCall) (env : Env) :
    Reachable (history P me) (Op.run (call.op (chainClient P me env)) ⟨s, 0⟩).2.state :=
  h.step (l := .call call) ⟨env, _, _, rfl⟩

theorem reachable_block (h : Reachable (history P me) s) (incl : NoteId → Bool) :
    Reachable (history P me) (s.produceBlock incl) :=
  h.step (l := .block incl) rfl

end Histories

end BraleMiden
