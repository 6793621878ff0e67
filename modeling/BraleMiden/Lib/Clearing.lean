import BraleMiden.Lib.Accounting
import BraleMiden.Lib.Systems

/-!
# A ledger with pending burns

On an atomic `Ledger` a burn takes tokens from a holder and from the supply at once. A `Clearing` ledger does it in two
entries: `request` takes them from the holder, `settle` later takes them from the supply. What was requested and not yet
settled is `pending`.

* `post`: the effect of an entry, and `Covers`: when it may be made;
* `Balanced.post`: the supply stays what the holders have together and what is pending;
* `Ledger.cleared`: an atomic ledger among them.
-/

namespace Accounting

open Systems

/-- A token ledger whose burns may be pending. -/
structure Clearing (κ : Type) where
  balance : κ → ℕ
  supply : ℕ
  pending : ℕ

/-- What is entered into it. -/
inductive Entry (κ : Type)
  | mint (a : κ) (n : ℕ)
  | transfer (a b : κ) (n : ℕ)
  | request (a : κ) (n : ℕ)
  | settle (n : ℕ)
deriving DecidableEq, Repr

variable {κ : Type}

/-- The holders of the entry are in `S`. -/
def Entry.On (S : Finset κ) : Entry κ → Prop
  | .mint a _ => a ∈ S
  | .transfer a b _ => a ∈ S ∧ b ∈ S
  | .request a _ => a ∈ S
  | .settle _ => True

namespace Clearing

/-- Nobody holds anything, and nothing is pending. -/
def empty : Clearing κ := ⟨fun _ => 0, 0, 0⟩

/-- Nobody spends more than the balance, and no more is settled than was requested. -/
def Covers (L : Clearing κ) : Entry κ → Prop
  | .mint _ _ => True
  | .transfer a _ n => n ≤ L.balance a
  | .request a n => n ≤ L.balance a
  | .settle n => n ≤ L.pending

/-- The supply is what the holders in `S` have together, and what is pending. -/
def Balanced (S : Finset κ) (L : Clearing κ) : Prop := ∑ x ∈ S, L.balance x + L.pending = L.supply

theorem balanced_empty {S : Finset κ} : Balanced S empty := by simp [Balanced, empty]

theorem Balanced.pending_le {S : Finset κ} {L : Clearing κ} (h : Balanced S L) : L.pending ≤ L.supply := by
  unfold Balanced at h
  omega

variable [DecidableEq κ]

/-- The effect of an entry. -/
def post (L : Clearing κ) : Entry κ → Clearing κ
  | .mint a n => ⟨credit L.balance a n, L.supply + n, L.pending⟩
  | .transfer a b n => ⟨credit (debit L.balance a n) b n, L.supply, L.pending⟩
  | .request a n => ⟨debit L.balance a n, L.supply, L.pending + n⟩
  | .settle n => ⟨L.balance, L.supply - n, L.pending - n⟩

variable {S : Finset κ} {L : Clearing κ} {e : Entry κ}

/-- **Every entry keeps the ledger balanced.** -/
theorem Balanced.post (h : Balanced S L) (hon : e.On S) (hc : L.Covers e) : Balanced S (L.post e) := by
  unfold Balanced at h
  cases e with
  | mint a n =>
    have hsum : ∑ x ∈ S, credit L.balance a n x = ∑ x ∈ S, L.balance x + n := sum_credit L.balance n hon
    show ∑ x ∈ S, credit L.balance a n x + L.pending = L.supply + n
    omega
  | transfer a b n =>
    have hdebit := sum_debit L.balance hon.1 (Nat.sub_add_cancel hc)
    have hcredit := sum_credit (debit L.balance a n) n hon.2
    show ∑ x ∈ S, credit (debit L.balance a n) b n x + L.pending = L.supply
    omega
  | request a n =>
    have hsum := sum_debit L.balance hon (Nat.sub_add_cancel hc)
    show ∑ x ∈ S, debit L.balance a n x + (L.pending + n) = L.supply
    omega
  | settle n =>
    have hle : n ≤ L.pending := hc
    show ∑ x ∈ S, L.balance x + (L.pending - n) = L.supply - n
    omega

end Clearing

/-- An atomic ledger, with nothing pending. -/
def Ledger.cleared (L : Ledger κ) : Clearing κ := ⟨L.balance, L.supply, 0⟩

/-- A burn on the atomic ledger is a request that is settled at once. -/
theorem Ledger.cleared_burn [DecidableEq κ] (L : Ledger κ) (a : κ) (n : ℕ) :
    (L.cleared.post (.request a n)).post (.settle n) = (L.burn a n).cleared := by
  simp [Clearing.post, Ledger.cleared, Ledger.burn]

/-- The ledger as a transition system. -/
def clearing [DecidableEq κ] : System (Clearing κ) (Entry κ) where
  init L := L = .empty
  step L e L' := L.Covers e ∧ L' = L.post e

end Accounting
