import Mathlib.Algebra.BigOperators.Pi
import Mathlib.Algebra.Ring.Nat
import Mathlib.Algebra.Order.BigOperators.Group.Finset
import Mathlib.Algebra.Order.BigOperators.Group.List
import Mathlib.Data.Finset.Update

/-!
# Holdings, totals and the atomic ledger

A holding `b : κ → M` gives every holder in `κ` an amount in an additive commutative monoid `M` (`ℕ` for one token, a
function of the token for several).

* `credit`, `debit`: one holder gains or loses; `sum_credit`, `sum_debit` are their effect on the total over a finite
  set of holders;
* `sum_map_split`: the sum over a list without repetitions, split off a part of it;
* `Ledger`: an account-based token ledger on which every operation is one atomic change. `Ledger.Balanced` (the supply
  is what the holders have together) is kept by every operation.
-/

namespace Accounting

/-! ## Crediting and debiting one holder -/

section Holdings

variable {κ M : Type} [DecidableEq κ]

/-- `b` with `g` added to what `a` holds. -/
def credit [Add M] (b : κ → M) (a : κ) (g : M) : κ → M := Function.update b a (b a + g)

/-- `b` with `g` taken from what `a` holds. -/
def debit [Sub M] (b : κ → M) (a : κ) (g : M) : κ → M := Function.update b a (b a - g)

@[simp] theorem credit_self [Add M] (b : κ → M) (a : κ) (g : M) : credit b a g a = b a + g := by
  rw [credit, Function.update_self]

@[simp] theorem debit_self [Sub M] (b : κ → M) (a : κ) (g : M) : debit b a g a = b a - g := by
  rw [debit, Function.update_self]

theorem credit_of_ne [Add M] (b : κ → M) {a x : κ} (g : M) (h : x ≠ a) : credit b a g x = b x := by
  rw [credit, Function.update_of_ne h]

theorem debit_of_ne [Sub M] (b : κ → M) {a x : κ} (g : M) (h : x ≠ a) : debit b a g x = b x := by
  rw [debit, Function.update_of_ne h]

theorem credit_apply [AddZeroClass M] (b : κ → M) (a : κ) (g : M) (x : κ) :
    credit b a g x = b x + if x = a then g else 0 := by
  by_cases h : x = a
  · subst h; simp
  · rw [credit_of_ne b g h, if_neg h, add_zero]

/-- A debit that is covered, credited back, changes nothing. -/
theorem debit_add_apply (b : κ → ℕ) (a : κ) {g : ℕ} (h : g ≤ b a) (x : κ) :
    debit b a g x + (if x = a then g else 0) = b x := by
  by_cases hx : x = a
  · subst hx; rw [debit_self, if_pos rfl]; omega
  · rw [debit_of_ne b g hx, if_neg hx, add_zero]

theorem sum_credit [AddCommMonoid M] (b : κ → M) {a : κ} (g : M) {S : Finset κ} (h : a ∈ S) :
    ∑ x ∈ S, credit b a g x = ∑ x ∈ S, b x + g := by
  have hsum : ∀ x ∈ S, credit b a g x = b x + if x = a then g else 0 := fun x _ => credit_apply b a g x
  rw [Finset.sum_congr rfl hsum, Finset.sum_add_distrib, Finset.sum_ite_eq', if_pos h]

/-- Taking back what a debit took: the total before is the total after and the amount. -/
theorem sum_debit [AddCommMonoid M] [Sub M] (b : κ → M) {a : κ} {g : M} {S : Finset κ} (h : a ∈ S)
    (hg : b a - g + g = b a) :
    ∑ x ∈ S, debit b a g x + g = ∑ x ∈ S, b x := by
  have hback : credit (debit b a g) a g = b := by
    funext x
    by_cases hx : x = a
    · subst hx; rw [credit_self, debit_self, hg]
    · rw [credit_of_ne _ g hx, debit_of_ne b g hx]
  rw [← sum_credit (debit b a g) g h, hback]

end Holdings

/-! ## Sums over lists -/

section Lists

variable {α M : Type}

/-- A part without repetitions can be summed separately from the rest. -/
theorem sum_map_split [DecidableEq α] [AddCommMonoid M] (g : α → M) {l ns : List α} (hl : l.Nodup) (hn : ns.Nodup)
    (hsub : ns ⊆ l) :
    (l.map g).sum = ((l.filter (· ∉ ns)).map g).sum + (ns.map g).sum := by
  have hperm : (l.filter (· ∈ ns)).Perm ns :=
    (List.perm_ext_iff_of_nodup (hl.filter _) hn).2 fun x => by
      simp only [List.mem_filter, decide_eq_true_eq]
      exact ⟨fun h => h.2, fun h => ⟨hsub h, h⟩⟩
  have hsplit := List.filter_append_perm (fun x => decide (x ∈ ns)) l
  have hneg : l.filter (fun x => !decide (x ∈ ns)) = l.filter (· ∉ ns) := by simp
  rw [hneg] at hsplit
  rw [← (hsplit.map g).sum_eq, List.map_append, List.sum_append, add_comm, (hperm.map g).sum_eq]

end Lists

/-! ## The atomic ledger -/

/-- A token ledger: who holds how much, and how much there is. -/
structure Ledger (κ : Type) where
  balance : κ → ℕ
  supply : ℕ

namespace Ledger

variable {κ : Type}

/-- Nobody holds anything. -/
def empty : Ledger κ := ⟨fun _ => 0, 0⟩

/-- The supply is what the holders in `S` have together. -/
def Balanced (S : Finset κ) (L : Ledger κ) : Prop := ∑ x ∈ S, L.balance x = L.supply

theorem balanced_empty {S : Finset κ} : Balanced S empty := by simp [Balanced, empty]

variable [DecidableEq κ]

/-- New tokens for `a`. -/
def mint (L : Ledger κ) (a : κ) (n : ℕ) : Ledger κ := ⟨credit L.balance a n, L.supply + n⟩

/-- Tokens move from `a` to `b`. -/
def transfer (L : Ledger κ) (a b : κ) (n : ℕ) : Ledger κ := ⟨credit (debit L.balance a n) b n, L.supply⟩

/-- Tokens of `a` are destroyed. -/
def burn (L : Ledger κ) (a : κ) (n : ℕ) : Ledger κ := ⟨debit L.balance a n, L.supply - n⟩

@[simp] theorem mint_balance (L : Ledger κ) (a x : κ) (n : ℕ) :
    (L.mint a n).balance x = L.balance x + if x = a then n else 0 := credit_apply L.balance a n x

@[simp] theorem transfer_balance (L : Ledger κ) (a b x : κ) (n : ℕ) :
    (L.transfer a b n).balance x = debit L.balance a n x + if x = b then n else 0 := credit_apply _ b n x

@[simp] theorem burn_balance (L : Ledger κ) (a x : κ) (n : ℕ) : (L.burn a n).balance x = debit L.balance a n x := rfl

@[simp] theorem mint_supply (L : Ledger κ) (a : κ) (n : ℕ) : (L.mint a n).supply = L.supply + n := rfl

@[simp] theorem transfer_supply (L : Ledger κ) (a b : κ) (n : ℕ) : (L.transfer a b n).supply = L.supply := rfl

@[simp] theorem burn_supply (L : Ledger κ) (a : κ) (n : ℕ) : (L.burn a n).supply = L.supply - n := rfl

variable {S : Finset κ} {L : Ledger κ}

theorem Balanced.mint (h : Balanced S L) {a : κ} (ha : a ∈ S) (n : ℕ) : Balanced S (L.mint a n) := by
  unfold Balanced Ledger.mint
  rw [sum_credit L.balance n ha, h]

theorem Balanced.transfer (h : Balanced S L) {a b : κ} (ha : a ∈ S) (hb : b ∈ S) {n : ℕ} (hn : n ≤ L.balance a) :
    Balanced S (L.transfer a b n) := by
  unfold Balanced Ledger.transfer
  rw [sum_credit _ n hb, sum_debit L.balance ha (Nat.sub_add_cancel hn), h]

theorem Balanced.burn (h : Balanced S L) {a : κ} (ha : a ∈ S) {n : ℕ} (hn : n ≤ L.balance a) :
    Balanced S (L.burn a n) := by
  unfold Balanced at h
  have hsum := sum_debit L.balance ha (Nat.sub_add_cancel hn)
  show ∑ x ∈ S, debit L.balance a n x = L.supply - n
  omega

end Ledger

end Accounting
