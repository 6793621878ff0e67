import BraleMiden.Chain.Conservation

/-!
# The notes are the books

All notes ever created stay in the note book, so every balance can be recomputed from them: what an account holds and
has sent is what it has consumed, and what an issuer has outstanding and has taken back is what it has issued.

* `NoteBook.takenBy`, `NoteBook.all`: what the notes consumed by an account, and all notes, add up to;
* `Stamped`: the notes of a request bear the account that outputs them as their sender, as the kernel has it;
* `Booked.submit`, `Booked.synced`: stamped transactions and blocks keep the books.
-/

namespace BraleMiden

open Accounting Effects

/-! ## Totals over all notes -/

namespace NoteBook

variable {M : Type} [AddCommMonoid M] {b b' : NoteBook}

/-- What all notes add up to under `g`. -/
def all (g : Note → M) (b : NoteBook) : M := (b.entries.map fun e => g e.note).sum

/-- What the notes that `a` has consumed add up to under `g`. -/
def takenBy (a : AccountId) (g : Note → M) (b : NoteBook) : M :=
  (b.entries.map fun e => if e.status.consumer = some a then g e.note else 0).sum

@[simp] theorem all_empty (g : Note → M) : empty.all g = 0 := rfl

@[simp] theorem takenBy_empty (a : AccountId) (g : Note → M) : empty.takenBy a g = 0 := rfl

theorem all_insert (g : Note → M) {n : Note} {c : ClientId} {h : n.id ∉ b.ids} :
    (b.insert n c h).all g = b.all g + g n := by
  simp [all, insert]

/-- A new note is not consumed. -/
theorem takenBy_insert (a : AccountId) (g : Note → M) {n : Note} {c : ClientId} {h : n.id ∉ b.ids} :
    (b.insert n c h).takenBy a g = b.takenBy a g := by
  simp [takenBy, insert, NoteStatus.consumer]

theorem all_markConsumed (g : Note → M) (a : AccountId) (ns : List Note) : (b.markConsumed a ns).all g = b.all g := by
  simp [all, markConsumed, setStatus, Function.comp_def]

/-- **Consuming notes adds exactly their share to what the account has taken.** -/
theorem takenBy_markConsumed (g : Note → M) {a x : AccountId} {ns : List Note} (hn : ns.Nodup)
    (hsub : ns ⊆ b.unconsumed) :
    (b.markConsumed a ns).takenBy x g = b.takenBy x g + if x = a then (ns.map g).sum else 0 := by
  let share : Note → M := fun n => if n ∈ ns then if x = a then g n else 0 else 0
  -- what is consumed now was taken by nobody before
  have hentry : ∀ e ∈ b.entries,
      (if (if e.note ∈ ns then NoteStatus.consumed a else e.status).consumer = some x then g e.note else 0) =
        (if e.status.consumer = some x then g e.note else 0) + share e.note := by
    intro e he
    by_cases hmem : e.note ∈ ns
    · obtain ⟨e', he', hnote, hst⟩ := mem_unconsumed.1 (hsub hmem)
      rw [entry_unique he' he (congrArg Note.id hnote), NoteStatus.isConsumed_eq] at hst
      have hnone : e.status.consumer = none := by simpa using hst
      have hnew : (NoteStatus.consumed a).consumer = some a := rfl
      simp only [share, hmem, ↓reduceIte, hnew, hnone, Option.some.injEq, reduceCtorEq, zero_add, eq_comm]
    · simp [share, hmem]
  have hshare : (b.entries.map fun e => share e.note).sum = (ns.map share).sum := by
    have hsubset : ns ⊆ b.entries.map (·.note) := by
      intro n hmem
      obtain ⟨e, he, rfl, -⟩ := mem_unconsumed.1 (hsub hmem)
      exact List.mem_map_of_mem he
    have hsplit := sum_map_split share b.nodup_notes hn hsubset
    have hrest : (((b.entries.map (·.note)).filter (· ∉ ns)).map share).sum = 0 := by
      refine List.sum_eq_zero fun y hy => ?_
      obtain ⟨n, hmem, rfl⟩ := List.mem_map.1 hy
      have hnot : n ∉ ns := by simpa using (List.mem_filter.1 hmem).2
      simp [share, hnot]
    rw [hrest, zero_add, List.map_map] at hsplit
    exact hsplit
  have hns : ns.map share = ns.map fun n => if x = a then g n else 0 :=
    List.map_congr_left fun n hmem => by simp [share, hmem]
  rw [takenBy, markConsumed, setStatus, List.map_map]
  refine Eq.trans (congrArg List.sum (List.map_congr_left hentry)) ?_
  rw [List.sum_map_add, hshare, hns, takenBy]
  split
  · rfl
  · simp

theorem SameNotes.all_eq (h : SameNotes b b') (g : Note → M) : b'.all g = b.all g := by
  have hsum := congrArg (fun l : List (Note × ClientId × Option AccountId) => (l.map fun p => g p.1).sum) h
  simp only [List.map_map] at hsum
  exact hsum

theorem SameNotes.takenBy_eq (h : SameNotes b b') (a : AccountId) (g : Note → M) : b'.takenBy a g = b.takenBy a g := by
  have hsum := congrArg
    (fun l : List (Note × ClientId × Option AccountId) => (l.map fun p => if p.2.2 = some a then g p.1 else 0).sum) h
  simp only [List.map_map] at hsum
  exact hsum

end NoteBook

/-! ## The books -/

namespace Chain

/-- What the notes of sender `a` carry, per faucet. -/
def sentBy (s : Chain) (a : AccountId) : AccountId → ℕ := s.notes.all fun n => if n.sender = a then n.value else 0

/-- What the notes that `a` has consumed carry, per faucet. -/
def receivedBy (s : Chain) (a : AccountId) : AccountId → ℕ := s.notes.takenBy a Note.value

/-- The balances are what the notes say: of a wallet, what it has received and not sent; of an issuer, what it has
issued and not taken back. -/
structure Booked (s : Chain) : Prop where
  wallet : ∀ a, a.isFaucet = false → s.vault a + s.sentBy a = s.receivedBy a
  faucet : ∀ a, a.isFaucet = true → Pi.single a (s.issuance a) + s.receivedBy a = s.sentBy a

/-- The notes that `a` outputs have `a` as their sender. -/
def Stamped (a : AccountId) : TransactionRequest → Prop
  | .ownOutputNotes ns => ∀ n ∈ ns, n.sender = a
  | .consumeNotes _ => True

section Books

variable {P : Params} {c : ClientId} {a x : AccountId} {s s' : Chain} {n : Note} {ns : List Note}

theorem sentBy_afterOutput (h : n.id ∉ s.notes.ids) :
    (afterOutput c a s n h).sentBy x = s.sentBy x + if n.sender = x then n.value else 0 :=
  NoteBook.all_insert (h := h) _

theorem receivedBy_afterOutput (h : n.id ∉ s.notes.ids) : (afterOutput c a s n h).receivedBy x = s.receivedBy x :=
  NoteBook.takenBy_insert _ _ (h := h)

theorem sentBy_afterConsume : (afterConsume a s ns).sentBy x = s.sentBy x := NoteBook.all_markConsumed _ a ns

/-- What an account consumes is received by it only. -/
theorem receivedBy_afterConsume (hn : ns.Nodup) (hsub : ns ⊆ s.notes.unconsumed) :
    (afterConsume a s ns).receivedBy x = s.receivedBy x + if x = a then (ns.map Note.value).sum else 0 :=
  NoteBook.takenBy_markConsumed Note.value hn hsub

theorem Booked.outputNote (h : Booked s) (hsender : n.sender = a) (hs : outputNote c a s n = .ok s') : Booked s' := by
  obtain ⟨hid, hcan, rfl⟩ := outputNote_ok.1 hs
  unfold CanOutput at hcan
  constructor
  · intro x hx
    rw [sentBy_afterOutput, receivedBy_afterOutput, ← h.wallet x hx, hsender]
    by_cases hxa : x = a
    · -- a wallet pays for its note
      subst hxa
      have hwallet : ¬ x.isFaucet = true := by simp [hx]
      rw [if_neg hwallet] at hcan
      have hcov : s.vault x - n.value + n.value = s.vault x := by
        funext f
        refine Nat.sub_add_cancel ?_
        rw [n.value_apply]
        split
        · rename_i hf
          rw [hf]
          exact hcan
        · exact Nat.zero_le _
      simp only [afterOutput, if_neg hwallet, debit_self, ↓reduceIte]
      rw [add_comm (s.sentBy x), ← add_assoc, hcov]
    · have hvault : (afterOutput c a s n hid).vault x = s.vault x := by
        simp only [afterOutput]
        split
        · rfl
        · exact debit_of_ne _ _ hxa
      rw [hvault, if_neg (Ne.symm hxa), add_zero]
  · intro x hx
    rw [sentBy_afterOutput, receivedBy_afterOutput, ← h.faucet x hx, hsender]
    by_cases hxa : x = a
    · -- an issuer issues its note
      subst hxa
      rw [if_pos hx] at hcan
      simp only [afterOutput, if_pos hx, credit_self, ↓reduceIte]
      rw [Note.value, hcan.1, Pi.single_add, add_right_comm]
    · have hissuance : (afterOutput c a s n hid).issuance x = s.issuance x := by
        simp only [afterOutput]
        split
        · exact credit_of_ne _ _ hxa
        · rfl
      rw [hissuance, if_neg (Ne.symm hxa), add_zero]

theorem Booked.consume (h : Booked s) (hs : consume P a s ns = .ok s') : Booked s' := by
  obtain ⟨⟨-, hn, hready, hcov⟩, rfl⟩ := consume_ok.1 hs
  have hsub : ns ⊆ s.notes.unconsumed := fun n hmem => NoteBook.committed_subset_unconsumed (hready n hmem).1
  have hcons : ∀ n ∈ ns, n.consumableBy a = true := fun n hmem => (NoteBook.mem_committed.1 (hready n hmem).1).1
  constructor
  · intro x hx
    rw [sentBy_afterConsume, receivedBy_afterConsume hn hsub, ← h.wallet x hx]
    by_cases hxa : x = a
    · -- a wallet is credited with what it consumes
      subst hxa
      have hwallet : ¬ x.isFaucet = true := by simp [hx]
      simp only [afterConsume, if_neg hwallet, credit_self, ↓reduceIte]
      rw [add_right_comm]
    · have hvault : (afterConsume a s ns).vault x = s.vault x := by
        simp only [afterConsume]
        split
        · rfl
        · exact credit_of_ne _ _ hxa
      rw [hvault, if_neg hxa, add_zero]
  · intro x hx
    rw [sentBy_afterConsume, receivedBy_afterConsume hn hsub, ← h.faucet x hx]
    by_cases hxa : x = a
    · -- an issuer takes back what it consumes
      subst hxa
      have hback : s.issuance x - amountOf ns + amountOf ns = s.issuance x := Nat.sub_add_cancel (hcov hx)
      simp only [afterConsume, if_pos hx, debit_self, ↓reduceIte]
      rw [sum_value_of_faucet hx hcons, add_comm (s.receivedBy x), ← add_assoc, ← Pi.single_add, hback]
    · have hissuance : (afterConsume a s ns).issuance x = s.issuance x := by
        simp only [afterConsume]
        split
        · exact debit_of_ne _ _ hxa
        · rfl
      rw [hissuance, if_neg hxa, add_zero]

/-- **A stamped transaction keeps the books.** -/
theorem Booked.submit {req : TransactionRequest} (h : Booked s) (hst : Stamped a req)
    (hs : submit P c a req s = .ok s') : Booked s' := by
  unfold Chain.submit at hs
  split at hs
  · cases req with
    | consumeNotes ns => exact h.consume hs
    | ownOutputNotes ns =>
      have hsenders : ∀ n ∈ ns, n.sender = a := hst
      simp only at hs
      clear hst
      induction ns generalizing s with
      | nil =>
        cases hs
        exact h
      | cons n ns ih =>
        obtain ⟨hhead, hrest⟩ := List.forall_mem_cons.1 hsenders
        rw [List.foldlM_cons] at hs
        obtain ⟨s₁, hfirst, hlast⟩ := except_bind_ok.1 hs
        have hacc : a ∈ s₁.accounts := by
          obtain ⟨_, -, rfl⟩ := outputNote_ok.1 hfirst
          assumption
        exact ih (h.outputNote hhead hfirst) hacc hlast hrest
  · cases hs

/-- Blocks and syncs touch neither balances nor which notes are consumed. -/
theorem Booked.synced (h : Booked s) (hs : Synced s s') : Booked s' := by
  have hsent : ∀ x, s'.sentBy x = s.sentBy x := fun x => hs.notes.all_eq _
  have hreceived : ∀ x, s'.receivedBy x = s.receivedBy x := fun x => hs.notes.takenBy_eq _ _
  constructor
  · intro x hx
    rw [hs.vault, hsent, hreceived]
    exact h.wallet x hx
  · intro x hx
    rw [hs.issuance, hsent, hreceived]
    exact h.faucet x hx

end Books

end Chain

open Chain

/-- Nobody has sent or received anything. -/
theorem Fresh.booked {P : Params} {s : Chain} (h : Fresh P s) : Booked s := by
  have hsent : ∀ x, s.sentBy x = 0 := by
    intro x
    rw [sentBy, h.notes, NoteBook.all_empty]
  have hreceived : ∀ x, s.receivedBy x = 0 := by
    intro x
    rw [receivedBy, h.notes, NoteBook.takenBy_empty]
  constructor
  · intro x hx
    rw [hsent, hreceived, h.vault]
    rfl
  · intro x hx
    rw [hsent, hreceived, h.issuance, Pi.zero_apply, Pi.single_zero, add_zero]

end BraleMiden
