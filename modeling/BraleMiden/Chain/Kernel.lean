import Mathlib.Algebra.Group.Pi.Basic
import BraleMiden.Chain.Notes

/-!
# The chain and its transactions

The state a transaction acts on: per issuer an issuance counter and a maximum supply, per account a vault, and the
notes. `submit` is one transaction: all of it happens, or none.

* A faucet that outputs a note issues its asset, up to the maximum supply; a wallet pays for it from its vault.
* A consume transaction consumes exactly the notes it lists. It is rejected as a whole if one of them is not ready (not
  committed, not consumable by the account, or not before a later block) or if it lists more than the input-note limit.
* `produceBlock` includes some pending notes.

`submit_output` and `submit_consume` say when a transaction is accepted, `afterOutput` and `afterConsume` what it does;
`submit_keeps` is the invariant rule for transactions.
-/

namespace BraleMiden

open Accounting

/-! ## Notes and the accounts that may consume them -/

/-- Whether the note is listed for its sender as well. -/
def NoteScript.isP2ide : NoteScript → Bool
  | .p2ide _ _ => true
  | _ => false

namespace Note

/-- `a` has sent the note, and can take it back. -/
def reclaimableBy (a : AccountId) (n : Note) : Bool :=
  match n.script with
  | .p2ide (some _) _ => n.sender == a
  | _ => false

/-- A faucet consumes the burn notes of its own asset; a wallet consumes what is paid to its id, and what it can take
back. -/
def consumableBy (a : AccountId) (n : Note) : Bool :=
  match n.script with
  | .burn => n.target == a && a.isFaucet && n.asset.faucetId == a
  | _ => !a.isFaucet && (n.target == a || n.reclaimableBy a)

/-- The first block at which `a` can consume the note. -/
def availableFrom (a : AccountId) (n : Note) : ℕ :=
  match n.script with
  | .p2ide reclaim timelock => if n.target = a then timelock else max (reclaim.getD 0) timelock
  | _ => 0

/-- The status of the note for `a` at a block height. -/
def statusAt (a : AccountId) (height : ℕ) (n : Note) : NoteConsumptionStatus :=
  if n.availableFrom a ≤ height then .consumable else .consumableAfter (n.availableFrom a)

/-- Nobody but `a` can consume the note. -/
def OnlyFor (a : AccountId) (n : Note) : Prop := ∀ x, n.consumableBy x = true → x = a

/-- What the note carries, per faucet. -/
def value (n : Note) : AccountId → ℕ := Pi.single n.asset.faucetId n.asset.amount

theorem value_apply (n : Note) (f : AccountId) : n.value f = if f = n.asset.faucetId then n.asset.amount else 0 :=
  Pi.single_apply n.asset.faucetId n.asset.amount f

/-- Only burn notes can be consumed by a faucet, and only by the issuer of their asset. -/
theorem of_consumableBy_faucet {a : AccountId} {n : Note} (h : n.consumableBy a = true) (ha : a.isFaucet = true) :
    n.script = .burn ∧ n.target = a ∧ n.asset.faucetId = a := by
  unfold consumableBy at h
  cases hs : n.script <;> simp_all

/-- A wallet consumes no burn notes. -/
theorem of_consumableBy_wallet {a : AccountId} {n : Note} (h : n.consumableBy a = true) (ha : a.isFaucet = false) :
    n.script ≠ .burn ∧ (n.target = a ∨ n.reclaimableBy a = true) := by
  unfold consumableBy at h
  cases hs : n.script <;> simp_all

/-- Only what can be taken back is consumed by another account than it is addressed to. -/
theorem target_or_reclaimableBy {a : AccountId} {n : Note} (h : n.consumableBy a = true) :
    n.target = a ∨ n.reclaimableBy a = true := by
  cases ha : a.isFaucet with
  | true => exact .inl (of_consumableBy_faucet h ha).2.1
  | false => exact (of_consumableBy_wallet h ha).2

/-- A note is taken back by its sender. -/
theorem of_reclaimableBy {a : AccountId} {n : Note} (h : n.reclaimableBy a = true) :
    n.script.isP2ide = true ∧ n.sender = a := by
  unfold reclaimableBy at h
  split at h
  · rename_i hs
    exact ⟨by rw [hs]; rfl, by simpa using h⟩
  · cases h

/-- A note that is not P2IDE is consumed by the account it is addressed to. -/
theorem target_of_consumableBy {a : AccountId} {n : Note} (h : n.consumableBy a = true)
    (hs : n.script.isP2ide = false) : n.target = a := by
  rcases target_or_reclaimableBy h with ht | hr
  · exact ht
  · rw [(of_reclaimableBy hr).1] at hs
    cases hs

theorem onlyFor_target {n : Note} (hs : n.script.isP2ide = false) : n.OnlyFor n.target :=
  fun _ hx => (target_of_consumableBy hx hs).symm

end Note

/-! ## What the protocol and its client fix -/

/-- Which notes a client lists for an account: all that the account can consume, and none but those addressed to it and
the P2IDE notes it has sent. -/
structure NoteScreener where
  lists : AccountId → Note → Bool
  complete : ∀ {a n}, n.consumableBy a = true → lists a n = true
  relevant : ∀ {a n}, lists a n = true → n.target = a ∨ n.script.isP2ide = true ∧ n.sender = a

/-- All that is addressed to the account, whether it can consume it or not, and the P2IDE notes it has sent. -/
def NoteScreener.addressed : NoteScreener where
  lists a n := n.target == a || (n.script.isP2ide && n.sender == a)
  complete h := by
    rcases Note.target_or_reclaimableBy h with ht | hr
    · simp [ht]
    · simp [Note.of_reclaimableBy hr]
  relevant h := by simpa using h

/-- The bounds of the protocol, where it keeps the issuance, what it publishes and what its client lists. -/
structure Params extends NoteScreener where
  /-- `FungibleAsset::MAX_AMOUNT` -/
  maxAmount : ℕ
  maxAmount_lt : maxAmount < feltModulus
  /-- how many notes a transaction may consume -/
  inputNoteLimit : ℕ
  inputNoteLimit_pos : 0 < inputNoteLimit
  /-- which element of a faucet's sysdata word has the issuance -/
  issuanceElement : Fin 4
  /-- whether the chain publishes the state of the account -/
  publishes : AccountId → Bool

/-- The protocol, with public accounts. -/
def Params.protocol : Params where
  toNoteScreener := .addressed
  maxAmount := 2 ^ 63 - 2 ^ 31
  maxAmount_lt := by decide
  inputNoteLimit := 1024
  inputNoteLimit_pos := by decide
  issuanceElement := Fin.last 3
  publishes _ := true

/-- What a list of notes carries, per faucet. -/
theorem sum_value_apply (f : AccountId) : ∀ ns : List Note,
    (ns.map Note.value).sum f = (ns.map fun n => n.value f).sum
  | [] => rfl
  | n :: ns => by
    rw [List.map_cons, List.sum_cons, Pi.add_apply, sum_value_apply f ns, List.map_cons, List.sum_cons]

/-! ## The chain -/

/-- The state of the chain. -/
structure Chain where
  accounts : Finset AccountId
  maxSupply : AccountId → ℕ
  issuance : AccountId → ℕ
  /-- what an account holds of a faucet's token -/
  vault : AccountId → AccountId → ℕ
  notes : NoteBook
  height : ℕ

namespace Chain

/-- The committed, unconsumed notes `a` can consume, oldest first, whoever created them. -/
def consumable (s : Chain) (a : AccountId) : List Note := s.notes.committed (Note.consumableBy a)

/-- The committed, unconsumed notes that a client lists for `a`. -/
def listed (P : Params) (s : Chain) (a : AccountId) : List Note := s.notes.committed (P.lists a)

/-- `n` can be consumed by `a` at this height. -/
def Ready (s : Chain) (a : AccountId) (n : Note) : Prop := n ∈ s.consumable a ∧ n.availableFrom a ≤ s.height

instance (s : Chain) (a : AccountId) (n : Note) : Decidable (s.Ready a n) :=
  inferInstanceAs (Decidable (_ ∧ _))

/-- A faucet issues its own asset within the maximum supply; a wallet pays from its vault. -/
def CanOutput (a : AccountId) (s : Chain) (n : Note) : Prop :=
  if a.isFaucet then n.asset.faucetId = a ∧ s.issuance a + n.asset.amount ≤ s.maxSupply a
  else n.asset.amount ≤ s.vault a n.asset.faucetId

instance (a : AccountId) (s : Chain) (n : Note) : Decidable (CanOutput a s n) :=
  inferInstanceAs (Decidable (if a.isFaucet then _ ∧ _ else _))

/-- The chain after `a` has output `n`, created by client `c`. -/
def afterOutput (c : ClientId) (a : AccountId) (s : Chain) (n : Note) (h : n.id ∉ s.notes.ids) : Chain :=
  { s with
    issuance := if a.isFaucet then credit s.issuance a n.asset.amount else s.issuance
    vault := if a.isFaucet then s.vault else debit s.vault a n.value
    notes := s.notes.insert n c h }

/-- `a` outputs one note with a new id. -/
def outputNote (c : ClientId) (a : AccountId) (s : Chain) (n : Note) : Except Error Chain :=
  if h : n.id ∉ s.notes.ids ∧ CanOutput a s n then .ok (afterOutput c a s n h.1)
  else .error (.msg "output note rejected")

/-- The amounts of `ns` together. -/
def amountOf (ns : List Note) : ℕ := (ns.map (·.asset.amount)).sum

/-- All of `ns` can be consumed by `a` in one transaction; a faucet burns no more than it issued. -/
def CanConsume (P : Params) (a : AccountId) (s : Chain) (ns : List Note) : Prop :=
  ns.length ≤ P.inputNoteLimit ∧ ns.Nodup ∧ (∀ n ∈ ns, s.Ready a n) ∧ (a.isFaucet = true → amountOf ns ≤ s.issuance a)

instance (P : Params) (a : AccountId) (s : Chain) (ns : List Note) : Decidable (CanConsume P a s ns) :=
  inferInstanceAs (Decidable (_ ∧ _ ∧ _ ∧ _))

/-- The chain after `a` has consumed `ns`. -/
def afterConsume (a : AccountId) (s : Chain) (ns : List Note) : Chain :=
  { s with
    issuance := if a.isFaucet then debit s.issuance a (amountOf ns) else s.issuance
    vault := if a.isFaucet then s.vault else credit s.vault a (ns.map Note.value).sum
    notes := s.notes.markConsumed a ns }

/-- `a` consumes the notes `ns`, all of them or none. -/
def consume (P : Params) (a : AccountId) (s : Chain) (ns : List Note) : Except Error Chain :=
  if CanConsume P a s ns then .ok (afterConsume a s ns) else .error (.msg "input notes rejected")

/-- One transaction of account `a`, submitted by client `c`. -/
def submit (P : Params) (c : ClientId) (a : AccountId) (req : TransactionRequest) (s : Chain) : Except Error Chain :=
  if a ∈ s.accounts then
    match req with
    | .ownOutputNotes ns => ns.foldlM (outputNote c a) s
    | .consumeNotes ns => consume P a s ns
  else
    .error (.msg "unknown account")

/-- A block that includes the pending notes with `incl`. -/
def produceBlock (incl : NoteId → Bool) (s : Chain) : Chain :=
  { s with notes := s.notes.commit incl (s.height + 1), height := s.height + 1 }

/-! ## Accepted transactions -/

variable {P : Params} {c : ClientId} {a : AccountId} {s s' : Chain}

/-- What can be consumed is listed. -/
theorem consumable_subset_listed (P : Params) (s : Chain) (a : AccountId) : s.consumable a ⊆ s.listed P a := by
  intro n hn
  obtain ⟨hby, hcommitted⟩ := NoteBook.mem_committed.1 hn
  exact NoteBook.mem_committed.2 ⟨P.complete hby, hcommitted⟩

/-- If all that is listed can be consumed, the two lists are the same. -/
theorem listed_eq_consumable (h : ∀ n ∈ s.listed P a, n.consumableBy a = true) : s.listed P a = s.consumable a := by
  unfold listed consumable NoteBook.committed
  congr 1
  refine List.filter_congr fun e he => ?_
  cases hst : e.status.isCommitted with
  | false => rfl
  | true =>
    have hiff : P.lists a e.note = true ↔ e.note.consumableBy a = true :=
      ⟨fun hl => h _ (NoteBook.mem_committed.2 ⟨hl, e, he, rfl, hst⟩), P.complete⟩
    rw [Bool.true_and, Bool.true_and, Bool.eq_iff_iff]
    exact hiff

/-- A transaction that consumes all that is listed consumes all that can be consumed. -/
theorem CanConsume.listed_eq (h : CanConsume P a s (s.listed P a)) : s.listed P a = s.consumable a :=
  listed_eq_consumable fun n hn => (NoteBook.mem_committed.1 (h.2.2.1 n hn).1).1

theorem outputNote_ok {n : Note} :
    outputNote c a s n = .ok s' ↔ ∃ h : n.id ∉ s.notes.ids, CanOutput a s n ∧ s' = afterOutput c a s n h := by
  unfold outputNote
  split
  · rename_i h
    simp [h.1, h.2, eq_comm]
  · rename_i h
    simp only [reduceCtorEq, false_iff]
    rintro ⟨h₁, h₂, -⟩
    exact h ⟨h₁, h₂⟩

theorem consume_ok {ns : List Note} : consume P a s ns = .ok s' ↔ CanConsume P a s ns ∧ s' = afterConsume a s ns := by
  unfold consume
  split
  · rename_i h
    simp [h, eq_comm]
  · rename_i h
    simp [h]

theorem submit_output {n : Note} : submit P c a (.ownOutputNotes [n]) s = .ok s' ↔
    a ∈ s.accounts ∧ outputNote c a s n = .ok s' := by
  unfold submit
  by_cases ha : a ∈ s.accounts
  · rw [if_pos ha]
    simp only [List.foldlM_cons, List.foldlM_nil, ha, true_and]
    cases outputNote c a s n <;> rfl
  · simp [ha]

theorem submit_consume {ns : List Note} : submit P c a (.consumeNotes ns) s = .ok s' ↔
    a ∈ s.accounts ∧ consume P a s ns = .ok s' := by
  unfold submit
  by_cases ha : a ∈ s.accounts <;> simp [ha]

/-- **Invariant rule for transactions**: what an output of one note and a consumption keep, every transaction keeps. -/
theorem submit_keeps {Q : Chain → Prop} (hout : ∀ {s s' n}, Q s → a ∈ s.accounts → outputNote c a s n = .ok s' → Q s')
    (hcons : ∀ {s s' ns}, Q s → a ∈ s.accounts → consume P a s ns = .ok s' → Q s') {req : TransactionRequest}
    (hQ : Q s) (h : submit P c a req s = .ok s') : Q s' := by
  unfold submit at h
  split at h
  · rename_i ha
    cases req with
    | consumeNotes ns => exact hcons hQ ha h
    | ownOutputNotes ns =>
      simp only at h
      induction ns generalizing s with
      | nil => cases h; exact hQ
      | cons n ns ih =>
        rw [List.foldlM_cons] at h
        cases hs : outputNote c a s n with
        | error e => rw [hs] at h; cases h
        | ok s₁ =>
          rw [hs] at h
          have hacc : a ∈ s₁.accounts := by
            obtain ⟨_, -, rfl⟩ := outputNote_ok.1 hs
            exact ha
          exact ih (hout hQ ha hs) hacc h
  · cases h

/-- A transaction is one of an account of the chain, and adds no account. -/
theorem submit_accounts {req : TransactionRequest} (hs : s.submit P c a req = .ok s') :
    a ∈ s.accounts ∧ s'.accounts = s.accounts := by
  have hacc : s'.accounts = s.accounts := by
    refine submit_keeps (Q := fun t => t.accounts = s.accounts) ?_ ?_ rfl hs
    · intro t t' n h _ hout
      obtain ⟨-, -, rfl⟩ := outputNote_ok.1 hout
      exact h
    · intro t t' ns h _ hcons
      obtain ⟨-, rfl⟩ := consume_ok.1 hcons
      exact h
  refine ⟨?_, hacc⟩
  by_contra hnot
  unfold submit at hs
  rw [if_neg hnot] at hs
  cases hs

/-- A transaction changes nothing of another account. -/
theorem submit_other {X : AccountId} {req : TransactionRequest} (hne : X ≠ a) (hs : s.submit P c a req = .ok s') :
    s'.issuance X = s.issuance X ∧ s'.vault X = s.vault X := by
  let Q : Chain → Prop := fun t => t.issuance X = s.issuance X ∧ t.vault X = s.vault X
  refine submit_keeps (Q := Q) ?_ ?_ ⟨rfl, rfl⟩ hs
  · intro t t' n h _ hout
    obtain ⟨-, -, rfl⟩ := outputNote_ok.1 hout
    obtain ⟨hissuance, hvault⟩ := h
    cases hf : a.isFaucet with
    | true => simp [Q, afterOutput, hf, credit_of_ne _ _ hne, hissuance, hvault]
    | false => simp [Q, afterOutput, hf, debit_of_ne _ _ hne, hissuance, hvault]
  · intro t t' ns h _ hcons
    obtain ⟨-, rfl⟩ := consume_ok.1 hcons
    obtain ⟨hissuance, hvault⟩ := h
    cases hf : a.isFaucet with
    | true => simp [Q, afterConsume, hf, debit_of_ne _ _ hne, hissuance, hvault]
    | false => simp [Q, afterConsume, hf, credit_of_ne _ _ hne, hissuance, hvault]

/-- What `x` has, and what it has issued, is the same; and what waits for it and nobody else still does. -/
structure Intact (x : AccountId) (s s' : Chain) : Prop where
  vault : s'.vault x = s.vault x
  issuance : s'.issuance x = s.issuance x
  waiting : ∀ n ∈ s.notes.unconsumed, n.OnlyFor x → n ∈ s'.notes.unconsumed

instance {x : AccountId} : IsPreorder Chain (Intact x) where
  refl _ := ⟨rfl, rfl, fun _ hn _ => hn⟩
  trans _ _ _ h h' := ⟨h'.vault.trans h.vault, h'.issuance.trans h.issuance,
    fun n hn ht => h'.waiting n (h.waiting n hn ht) ht⟩

/-- A transaction leaves every other account intact. -/
theorem submit_intact {X : AccountId} {req : TransactionRequest} (hne : X ≠ a) (hs : s.submit P c a req = .ok s') :
    Intact X s s' := by
  obtain ⟨hissuance, hvault⟩ := submit_other hne hs
  refine ⟨hvault, hissuance, fun n hn ht => ?_⟩
  refine submit_keeps (Q := fun t => n ∈ t.notes.unconsumed) ?_ ?_ hn hs
  · intro t t' m hmem _ hout
    obtain ⟨hid, -, rfl⟩ := outputNote_ok.1 hout
    show n ∈ (t.notes.insert m c hid).unconsumed
    rw [NoteBook.unconsumed_insert]
    exact List.mem_append_left _ hmem
  · intro t t' ns hmem _ hcons
    obtain ⟨⟨-, -, hready, -⟩, rfl⟩ := consume_ok.1 hcons
    -- another account can consume no note that is for `X` only
    have hnot : n ∉ ns := fun hin => hne (ht a (NoteBook.mem_committed.1 (hready n hin).1).1).symm
    show n ∈ (t.notes.markConsumed a ns).unconsumed
    rw [NoteBook.unconsumed_markConsumed, List.mem_filter]
    exact ⟨hmem, decide_eq_true hnot⟩

/-- So does a block. -/
theorem produceBlock_intact (X : AccountId) (incl : NoteId → Bool) (s : Chain) : Intact X s (s.produceBlock incl) := by
  refine ⟨rfl, rfl, fun n hn _ => ?_⟩
  show n ∈ (s.notes.commit incl (s.height + 1)).unconsumed
  rw [(NoteBook.sameNotes_commit incl _ s.notes).unconsumed_eq]
  exact hn

end Chain

end BraleMiden
