import Mathlib.Algebra.Ring.Nat
import BraleMiden.Lib.Op

/-!
# The values the operations work with

The data of the Miden SDK as far as `operations.rs` reads or builds it: field elements and words, account ids, assets,
notes, transaction requests and account records. Accounts are given by the answers of their accessors, so nothing is
assumed about how the SDK stores them.

Errors are `anyhow` chains: the messages, outermost context first (`Error.context` adds one).
-/

namespace BraleMiden

open Effects

/-! ## Errors -/

/-- An `anyhow` error: its messages, outermost first. -/
structure Error where
  chain : List String
deriving DecidableEq, Repr

/-- `anyhow!(m)`. -/
def Error.msg (m : String) : Error := ⟨[m]⟩

/-- `.context(m)` on an error. -/
def Error.context (m : String) (e : Error) : Error := ⟨m :: e.chain⟩

/-- `.context(m)` on the result of a call. -/
def context {σ α : Type} (m : String) (x : Op σ Error α) : Op σ Error α := Op.mapError (Error.context m) x

/-- `bail!(m)`. -/
def bail {σ α : Type} (m : String) : Op σ Error α := throw (Error.msg m)

/-- `?` on a result that does not touch the client. -/
def lift {σ α : Type} (r : Except Error α) : Op σ Error α := Op.ofExcept r

section Runs

variable {σ α : Type} {s s' : σ} {m : String} {a : α}

/-- A context changes only errors. -/
theorem run_context_ok {x : Op σ Error α} : Op.run (context m x) s = (.ok a, s') ↔ Op.run x s = (.ok a, s') :=
  Op.run_mapError_ok

theorem run_lift_ok {r : Except Error α} : Op.run (lift r) s = (.ok a, s') ↔ r = .ok a ∧ s' = s := by
  rw [lift, Op.run_ofExcept, Prod.mk.injEq, eq_comm (a := s')]

theorem run_context_lift_ok {r : Except Error α} :
    Op.run (context m (lift r)) s = (.ok a, s') ↔ r = .ok a ∧ s' = s := by
  rw [run_context_ok, run_lift_ok]

end Runs

/-! ## Field elements and words -/

/-- The order of the field, `2^64 - 2^32 + 1`. -/
def feltModulus : ℕ := 2 ^ 64 - 2 ^ 32 + 1

instance : NeZero feltModulus := ⟨by decide⟩

/-- A field element by its canonical integer. -/
abbrev Felt := Fin feltModulus

namespace Felt

/-- `Felt::new`: the argument is reduced. -/
def new (n : UInt64) : Felt := Fin.ofNat feltModulus n.toNat

/-- `as_int`: the canonical integer. -/
def asInt (x : Felt) : UInt64 := UInt64.ofNat x.val

theorem new_val (n : UInt64) : (new n).val = n.toNat % feltModulus := rfl

@[simp] theorem asInt_toNat (x : Felt) : x.asInt.toNat = x.val := by
  have hx : x.val < 2 ^ 64 := Nat.lt_trans x.isLt (by decide)
  rw [asInt, UInt64.toNat_ofNat_of_lt' hx]

/-- Above the modulus the argument wraps once. -/
theorem new_val_of_le {n : UInt64} (h : feltModulus ≤ n.toNat) : (new n).val = n.toNat - feltModulus := by
  have hn : n.toNat < 2 ^ 64 := n.toNat_lt
  have hlt : n.toNat - feltModulus < feltModulus := by
    unfold feltModulus at h ⊢
    omega
  rw [new_val, Nat.mod_eq_sub_mod h, Nat.mod_eq_of_lt hlt]

/-- Reducing changes nothing below the modulus. -/
theorem asInt_new {n : UInt64} (h : n.toNat < feltModulus) : (new n).asInt = n := by
  apply UInt64.toNat_inj.1
  rw [asInt_toNat, new_val, Nat.mod_eq_of_lt h]

/-- The canonical integer gives the element back. -/
theorem new_asInt (x : Felt) : new x.asInt = x := by
  apply Fin.ext
  rw [new_val, asInt_toNat, Nat.mod_eq_of_lt x.isLt]

end Felt

/-- Four field elements. -/
abbrev Word := Vector Felt 4

/-! ## Accounts -/

/-- An account id. It encodes whether the account is a faucet (an issuer). -/
structure AccountId where
  isFaucet : Bool
  suffix : ℕ
deriving DecidableEq, Repr

instance : ToString AccountId := ⟨fun a => (if a.isFaucet then "faucet:" else "wallet:") ++ toString a.suffix⟩

/-- The storage slots the operations read. -/
inductive StorageSlot
  | faucetSysdata
  | metadata
deriving DecidableEq, Repr

/-- An account, by what its accessors answer. -/
structure Account where
  id : AccountId
  /-- `vault().get_balance(faucet)` -/
  getBalance : AccountId → Except Error ℕ
  /-- `storage().get_item(slot)` -/
  getItem : StorageSlot → Except Error Word

/-- `AccountRecordData`: the full state, or only a part of it. -/
inductive AccountRecordData
  | full (account : Account)
  | partialData

/-! ## Assets and notes -/

/-- An amount of the token of `faucetId`. -/
structure FungibleAsset where
  faucetId : AccountId
  amount : ℕ
deriving DecidableEq, Repr

/-- Whether the chain publishes the details of a note or only its commitment. -/
inductive NoteType
  | priv
  | pub
deriving DecidableEq, Repr

/-- The note scripts: pay to id; pay to id with a timelock and, if it can be taken back, the block from which its sender
can do that; burn. -/
inductive NoteScript
  | p2id
  | p2ide (reclaim : Option ℕ) (timelock : ℕ)
  | burn
deriving DecidableEq, Repr

abbrev NoteId := ℕ

/-- A note with one asset, addressed to the account `target`. -/
structure Note where
  id : NoteId
  sender : AccountId
  target : AccountId
  script : NoteScript
  noteType : NoteType
  asset : FungibleAsset
deriving DecidableEq, Repr

/-- `PaymentNoteDescription::new(vec![asset], sender, target)`. -/
structure PaymentNoteDescription where
  asset : FungibleAsset
  sender : AccountId
  target : AccountId
deriving DecidableEq, Repr

/-- A transaction request: output notes to create, or notes to consume. -/
inductive TransactionRequest
  | ownOutputNotes (notes : List Note)
  | consumeNotes (notes : List Note)
deriving DecidableEq, Repr

/-- Whether a note can be consumed now or only after a later block. -/
inductive NoteConsumptionStatus
  | consumable
  | consumableAfter (block : ℕ)
deriving DecidableEq, Repr

/-- What a client's store has of a note. -/
structure InputNoteRecord where
  note : Note
deriving DecidableEq, Repr

end BraleMiden
