import Mathlib.Logic.Function.Iterate
import BraleMiden.Chain.Burn

/-!
# Whether deposits can block one another

`consume_notes` puts everything that is listed for the account into one transaction, which the kernel accepts or rejects
as a whole. So at a fixed block height a call consumes all that is listed (`consumeOnce_of_accepted`) or changes
nothing, however often it is repeated (`consumeOnce_of_not`). Notes added to the account can turn the first into the
second: a timelocked note, a note that the account cannot consume, or too many of them.
-/

namespace BraleMiden

open Effects Accounting Chain

section Deposits

variable {P : Params} {me : ClientId} {a : AccountId} {s s₁ s₂ : Chain} {n : Note}

/-- One call of `consume_notes`; no call of the client fails, and no new block comes. -/
def consumeOnce (P : Params) (me : ClientId) (a : AccountId) (s : Chain) : Chain :=
  (Op.run (consumeNotes (chainClient P me (.steady none)) a) ⟨s, 0⟩).2.state

/-- What is listed for `a` is accepted in one transaction: there is something, `a` can consume all of it at this height,
and it is no more than the input-note limit. -/
structure AllAccepted (P : Params) (a : AccountId) (s : Chain) : Prop where
  account : a ∈ s.accounts
  ne_nil : s.listed P a ≠ []
  length_le : (s.listed P a).length ≤ P.inputNoteLimit
  now : ∀ n ∈ s.listed P a, n.consumableBy a = true ∧ n.statusAt a s.height = .consumable

/-- A faucet has issued what its burn notes carry. -/
def Covered (a : AccountId) (s : Chain) : Prop := a.isFaucet = true → amountOf (s.consumable a) ≤ s.issuance a

/-! ## One call at a fixed height -/

theorem statusAt_consumable {height : ℕ} : n.statusAt a height = .consumable ↔ n.availableFrom a ≤ height := by
  unfold Note.statusAt
  split
  · simp [*]
  · simp [*]

theorem AllAccepted.listed_eq (h : AllAccepted P a s) : s.listed P a = s.consumable a :=
  listed_eq_consumable fun n hn => (h.now n hn).1

theorem AllAccepted.canConsume (h : AllAccepted P a s) (hc : Covered a s) : CanConsume P a s (s.consumable a) := by
  refine ⟨h.listed_eq ▸ h.length_le, NoteBook.nodup_committed _ _, ?_, hc⟩
  intro n hn
  exact ⟨hn, statusAt_consumable.1 (h.now n (consumable_subset_listed P s a hn)).2⟩

/-- An accepted call consumes everything that `a` can consume. -/
theorem consumeOnce_of_accepted (h : AllAccepted P a s) (hc : Covered a s) :
    consumeOnce P me a s = afterConsume a s (s.consumable a) := by
  have hsub : s.submit P me a (.consumeNotes (s.listed P a)) = .ok (afterConsume a s (s.consumable a)) := by
    rw [h.listed_eq]
    exact submit_consume.2 ⟨h.account, consume_ok.2 ⟨h.canConsume hc, rfl⟩⟩
  have hrun : Op.run (consumeNotes (chainClient P me (.steady none)) a) ⟨s, 0⟩ =
      (.ok (), ⟨afterConsume a s (s.consumable a), 5⟩) := by
    apply consumeAvailable_first
    · intro k
      rfl
    · exact h.ne_nil
    · exact hsub
  rw [consumeOnce, hrun]

/-- A call that is not accepted changes nothing. -/
theorem consumeOnce_of_not (h : ¬ AllAccepted P a s) : consumeOnce P me a s = s := by
  have hsync : ∀ (s : Chain) (k : ℕ), s = s.sync ((Env.steady none).block k) := fun s k => rfl
  cases hrun : Op.run (consumeNotes (chainClient P me (.steady none)) a) ⟨s, 0⟩ with
  | mk r u =>
    rw [consumeOnce, hrun]
    cases r with
    | error e =>
      have hpoll : (chainClient P me (.steady none)).PollKeeps (OnState Eq) := chainClient_pollKeeps hsync
      exact (consumeAvailable_keepsOnError hpoll chainClient_submitFailsKeep _ a _ _ _ hrun).symm
    | ok x =>
      obtain ⟨s', rfl, hlist, hne, ha, ⟨hlen, -, hready, -⟩, -⟩ := consumeAvailable_chain_of hsync hrun
      refine absurd ⟨ha, hlist ▸ hne, hlist ▸ hlen, fun n hn => ?_⟩ h
      obtain ⟨hmem, hfrom⟩ := hready n (hlist ▸ hn)
      exact ⟨(NoteBook.mem_committed.1 hmem).1, statusAt_consumable.2 hfrom⟩

/-- Repeating a call that is not accepted does not help. -/
theorem iterate_consumeOnce_of_not (h : ¬ AllAccepted P a s) (m : ℕ) : (consumeOnce P me a)^[m] s = s :=
  Function.iterate_fixed (consumeOnce_of_not h) m

/-- The notes an accepted call consumes. -/
theorem isConsumed_afterConsume (hn : n ∈ s.consumable a) :
    (afterConsume a s (s.consumable a)).notes.IsConsumed n := by
  obtain ⟨-, e, he, hen, -⟩ := NoteBook.mem_committed.1 hn
  exact NoteBook.isConsumed_markConsumed.2 (.inr ⟨hn, e, he, hen⟩)

/-! ## Two states, one with more deposits -/

/-- `s₂` is `s₁` with further notes addressed to `a`, of any status, at any positions. -/
structure MoreDeposits (a : AccountId) (s₁ s₂ : Chain) : Prop where
  accounts : s₂.accounts = s₁.accounts
  maxSupply : s₂.maxSupply = s₁.maxSupply
  issuance : s₂.issuance = s₁.issuance
  vault : s₂.vault = s₁.vault
  height : s₂.height = s₁.height
  sublist : s₁.notes.entries.Sublist s₂.notes.entries
  target : ∀ e ∈ s₂.notes.entries, e ∉ s₁.notes.entries → e.note.target = a

/-- Every note that a call of `consume_notes` consumes in `s₁` is consumed in `s₂` after enough calls. -/
def DepositsMonotone (P : Params) (me : ClientId) (a : AccountId) (s₁ s₂ : Chain) : Prop :=
  ∀ n, ¬ s₁.notes.IsConsumed n → (consumeOnce P me a s₁).notes.IsConsumed n →
    ∃ m, ((consumeOnce P me a)^[m] s₂).notes.IsConsumed n

theorem MoreDeposits.committed_sublist (h : MoreDeposits a s₁ s₂) (p : Note → Bool) :
    (s₁.notes.committed p).Sublist (s₂.notes.committed p) := by
  apply List.Sublist.map
  exact h.sublist.filter _

/-- A faucet that covers the larger set of burn notes covers the smaller one. -/
theorem MoreDeposits.covered (h : MoreDeposits a s₁ s₂) (hc : Covered a s₂) : Covered a s₁ := by
  intro ha
  have hle : amountOf (s₁.consumable a) ≤ amountOf (s₂.consumable a) := by
    apply List.Sublist.sum_le_sum ((h.committed_sublist _).map _)
    intro x _
    exact Nat.zero_le x
  have hcov := hc ha
  rw [h.issuance] at hcov
  omega

/-- With more deposits, what is listed is accepted if it was before, all of it can be consumed now, and it stays within
the limit. -/
theorem MoreDeposits.allAccepted (h : MoreDeposits a s₁ s₂) (hacc : AllAccepted P a s₁)
    (hlen : (s₂.listed P a).length ≤ P.inputNoteLimit)
    (hnow : ∀ n ∈ s₂.listed P a, n.consumableBy a = true ∧ n.statusAt a s₂.height = .consumable) :
    AllAccepted P a s₂ := by
  refine ⟨h.accounts ▸ hacc.account, ?_, hlen, hnow⟩
  intro hnil
  have hsub : (s₁.listed P a).Sublist (s₂.listed P a) := h.committed_sublist _
  rw [hnil] at hsub
  exact hacc.ne_nil (List.sublist_nil.1 hsub)

/-- **Deposits block one another exactly when the added ones make the transaction be refused**: some listed note of the
larger state is one that the account cannot consume, or not yet, or there are more than the limit. -/
theorem depositsMonotone_iff (h : MoreDeposits a s₁ s₂) (hc : Covered a s₂) :
    DepositsMonotone P me a s₁ s₂ ↔ (AllAccepted P a s₁ → (s₂.listed P a).length ≤ P.inputNoteLimit ∧
      ∀ n ∈ s₂.listed P a, n.consumableBy a = true ∧ n.statusAt a s₂.height = .consumable) := by
  constructor
  · intro hmono hacc
    by_contra hcon
    have hnot : ¬ AllAccepted P a s₂ := fun hacc₂ => hcon ⟨hacc₂.length_le, hacc₂.now⟩
    obtain ⟨n, hlisted⟩ := List.exists_mem_of_ne_nil _ hacc.ne_nil
    have hn : n ∈ s₁.consumable a := hacc.listed_eq ▸ hlisted
    have hun₁ : n ∈ s₁.notes.unconsumed := NoteBook.committed_subset_unconsumed hn
    have hun₂ : n ∈ s₂.notes.unconsumed := NoteBook.committed_subset_unconsumed ((h.committed_sublist _).subset hn)
    have hcons : (consumeOnce P me a s₁).notes.IsConsumed n := by
      rw [consumeOnce_of_accepted hacc (h.covered hc)]
      exact isConsumed_afterConsume hn
    obtain ⟨m, hm⟩ := hmono n (NoteBook.not_isConsumed hun₁) hcons
    rw [iterate_consumeOnce_of_not hnot] at hm
    exact NoteBook.not_isConsumed hun₂ hm
  · intro himp n hnot hcons
    by_cases hacc : AllAccepted P a s₁
    · obtain ⟨hlen, hnow⟩ := himp hacc
      rw [consumeOnce_of_accepted hacc (h.covered hc)] at hcons
      rcases NoteBook.isConsumed_markConsumed.1 hcons with hold | ⟨hn, -⟩
      · exact absurd hold hnot
      · refine ⟨1, ?_⟩
        rw [Function.iterate_one, consumeOnce_of_accepted (h.allAccepted hacc hlen hnow) hc]
        exact isConsumed_afterConsume ((h.committed_sublist _).subset hn)
    · rw [consumeOnce_of_not hacc] at hcons
      exact absurd hcons hnot

end Deposits

/-! ## A deposit and a second one -/

namespace SecondDeposit

open LeftoverBurn

/-- The mint of 100 to Alice is committed. -/
def deposit : Chain := minted.produceBlock fun _ => true

/-- A note of one token that someone sends to `a`. -/
def gift (s : Chain) (a : AccountId) (script : NoteScript) : Note :=
  ⟨s.notes.nextId, ⟨false, 9⟩, a, script, .pub, ⟨issuer, 1⟩⟩

/-- The same state, with the gift committed as well. -/
def withGift (s : Chain) (a : AccountId) (script : NoteScript) : Chain :=
  { s with
    notes := (s.notes.insert (gift s a script) 7 s.notes.nextId_notMem).commit (· == s.notes.nextId) s.height }

/-- The block includes the gift only. -/
theorem entries_withGift (s : Chain) (a : AccountId) (script : NoteScript) :
    (withGift s a script).notes.entries = s.notes.entries ++ [⟨gift s a script, 7, .committed s.height⟩] := by
  have hold : ∀ e ∈ s.notes.entries, e.note.id ≠ s.notes.nextId := fun e he hid =>
    s.notes.nextId_notMem (hid ▸ NoteBook.mem_ids he)
  simp only [withGift, NoteBook.commit, NoteBook.setStatus, NoteBook.insert, List.map_append, List.map_singleton]
  congr 1
  · refine (List.map_congr_left fun e he => ?_).trans (List.map_id _)
    cases hst : e.status <;> simp [hold e he, ← hst]
  · simp [gift]

theorem moreDeposits_withGift (s : Chain) (a : AccountId) (script : NoteScript) :
    MoreDeposits a s (withGift s a script) := by
  refine ⟨rfl, rfl, rfl, rfl, rfl, ?_, ?_⟩
  · rw [entries_withGift]
    exact List.sublist_append_left _ _
  · intro e he hnew
    rw [entries_withGift, List.mem_append, List.mem_singleton] at he
    rw [he.resolve_left hnew]
    rfl

end SecondDeposit

open LeftoverBurn SecondDeposit

/-- A second plain deposit does not get in the way of the first. -/
theorem depositsMonotone_gift : DepositsMonotone .protocol 0 alice deposit (withGift deposit alice .p2id) :=
  (depositsMonotone_iff (moreDeposits_withGift deposit alice .p2id) fun h => absurd h (by decide)).2 fun _ => by decide

/-- A timelocked gift to Alice keeps her from consuming her deposit. -/
theorem timelocked_gift_blocks : MoreDeposits alice deposit (withGift deposit alice (.p2ide none 1000)) ∧
    ¬ DepositsMonotone .protocol 0 alice deposit (withGift deposit alice (.p2ide none 1000)) := by
  refine ⟨moreDeposits_withGift _ _ _, fun hmono => ?_⟩
  have hnot : ¬ AllAccepted .protocol alice (withGift deposit alice (.p2ide none 1000)) := fun hacc =>
    absurd (hacc.now (gift deposit alice (.p2ide none 1000)) (by decide)).2 (by decide)
  obtain ⟨m, hm⟩ := hmono ⟨1, issuer, alice, .p2id, .priv, ⟨issuer, 100⟩⟩ (by decide) (by decide)
  rw [iterate_consumeOnce_of_not hnot] at hm
  revert hm
  decide

/-- A payment to the issuer, which a faucet cannot consume, keeps it from consuming the burn note that waits for it. -/
theorem payment_blocks_issuer : MoreDeposits issuer leftover (withGift leftover issuer .p2id) ∧
    Covered issuer (withGift leftover issuer .p2id) ∧
    ¬ DepositsMonotone .protocol 0 issuer leftover (withGift leftover issuer .p2id) := by
  refine ⟨moreDeposits_withGift _ _ _, fun _ => by decide, fun hmono => ?_⟩
  have hnot : ¬ AllAccepted .protocol issuer (withGift leftover issuer .p2id) := fun hacc =>
    absurd (hacc.now (gift leftover issuer .p2id) (by decide)).1 (by decide)
  obtain ⟨m, hm⟩ := hmono ⟨2, alice, issuer, .burn, .pub, ⟨issuer, 50⟩⟩ (by decide) (by decide)
  rw [iterate_consumeOnce_of_not hnot] at hm
  revert hm
  decide

end BraleMiden
