import BraleMiden.Operations.Client

/-!
# Balance and supply

`read_balance` and `read_total_supply` of `operations.rs`. Both start by taking the full account from the client's
store (`fullAccount`), with their own texts.
-/

namespace BraleMiden

open Effects

variable {σ : Type}

/-- `.context(m)` on an option. -/
def orMsg {α : Type} (m : String) : Option α → Except Error α
  | some a => .ok a
  | none => .error (Error.msg m)

/-- The full account of the store: it must be known, and not only partially tracked. -/
def fullAccount (c : Client σ) (accountId : AccountId) (failed missing tracked : String) : Op σ Error Account := do
  let record ← context failed (c.getAccount accountId)
  match ← lift (orMsg missing record) with
  | .full account => pure account
  | .partialData => bail tracked

/-- `read_balance` -/
def readBalance (c : Client σ) (accountId issuerId : AccountId) : Op σ Error ℕ := do
  let account ← fullAccount c accountId "failed to get account" "account not found"
    s!"account {accountId} is only partially tracked"
  context "failed to read balance from vault" (lift (account.getBalance issuerId))

/-- The account that `read_total_supply` and `read_token_metadata` read. -/
def issuerAccount (c : Client σ) (issuerId : AccountId) : Op σ Error Account :=
  fullAccount c issuerId "failed to get issuer account" "issuer account not found"
    s!"issuer {issuerId} is only partially tracked"

/-- `read_total_supply` -/
def readTotalSupply (c : Client σ) (issuerId : AccountId) : Op σ Error UInt64 := do
  let account ← issuerAccount c issuerId
  let issuanceSlot ← context "failed to read issuance storage slot" (lift (account.getItem .faucetSysdata))
  return issuanceSlot[0].asInt

section Runs

variable {c : Client σ} {s s' : σ} {a : AccountId} {acc : Account}

/-- A store that has the full account gives it. -/
theorem run_fullAccount (h : Op.run (c.getAccount a) s = (.ok (some (.full acc)), s'))
    (failed missing tracked : String) : Op.run (fullAccount c a failed missing tracked) s = (.ok acc, s') := by
  rw [fullAccount, Op.run_bind_of_ok (run_context_ok.2 h)]
  rfl

/-- A full account that a read gets is the one of the store. -/
theorem getAccount_of_fullAccount {failed missing tracked : String}
    (h : Op.run (fullAccount c a failed missing tracked) s = (.ok acc, s')) :
    Op.run (c.getAccount a) s = (.ok (some (.full acc)), s') := by
  obtain ⟨record, s₁, hget, hmatch⟩ := Op.run_bind_ok.1 h
  rcases record with _ | (_ | _)
  · cases hmatch
  · cases hmatch
    exact run_context_ok.1 hget
  · cases hmatch

theorem run_readBalance {i : AccountId} {n : ℕ} (h : Op.run (c.getAccount a) s = (.ok (some (.full acc)), s'))
    (hb : acc.getBalance i = .ok n) : Op.run (readBalance c a i) s = (.ok n, s') := by
  rw [readBalance, Op.run_bind_of_ok (run_fullAccount h _ _ _), run_context_lift_ok]
  exact ⟨hb, rfl⟩

theorem run_readTotalSupply {w : Word} (h : Op.run (c.getAccount a) s = (.ok (some (.full acc)), s'))
    (hw : acc.getItem .faucetSysdata = .ok w) : Op.run (readTotalSupply c a) s = (.ok w[0].asInt, s') := by
  rw [readTotalSupply, issuerAccount, Op.run_bind_of_ok (run_fullAccount h _ _ _),
    Op.run_bind_of_ok (run_context_lift_ok.2 ⟨hw, rfl⟩)]
  rfl

end Runs

end BraleMiden
