import Mathlib.Tactic.Simps.Basic
import BraleMiden.Miden.Types

/-!
# The client the operations call

`Client σ` lists the calls that `operations.rs` makes to the SDK, over whatever state `σ` the client has. Every call may
fail and may change the state; nothing else is assumed here. The chain, the scripted client and the network of clients
are instances.
-/

namespace BraleMiden

open Effects

/-- The SDK calls of the token operations, over a client state `σ`. -/
structure Client (σ : Type) where
  /-- `FungibleAsset::new` -/
  fungibleAssetNew : AccountId → ℕ → Except Error FungibleAsset
  /-- `create_burn_note(sender, issuer, asset, NoteAttachment::default(), rng)` -/
  createBurnNote : AccountId → AccountId → FungibleAsset → Op σ Error Note
  /-- `build_mint_fungible_asset(asset, target, note_type, rng)` -/
  buildMintFungibleAsset : FungibleAsset → AccountId → NoteType → Op σ Error TransactionRequest
  /-- `build_pay_to_id(payment, note_type, rng)` -/
  buildPayToId : PaymentNoteDescription → NoteType → Op σ Error TransactionRequest
  /-- `own_output_notes(notes).build()` -/
  buildOwnOutputNotes : List Note → Op σ Error TransactionRequest
  /-- `build_consume_notes(notes)` -/
  buildConsumeNotes : List Note → Op σ Error TransactionRequest
  /-- `sync_state()` -/
  syncState : Op σ Error Unit
  /-- `get_consumable_notes(Some(account))` -/
  getConsumableNotes : AccountId → Op σ Error (List (InputNoteRecord × NoteConsumptionStatus))
  /-- Whether `record.try_into()` gives the note of the record. -/
  converts : InputNoteRecord → Bool
  /-- `submit_new_transaction(account, request)` -/
  submitNewTransaction : AccountId → TransactionRequest → Op σ Error Unit
  /-- `get_account(id)` -/
  getAccount : AccountId → Op σ Error (Option AccountRecordData)

namespace Client

variable {σ : Type}

/-- `record.try_into().ok()`. -/
def tryInto (c : Client σ) (r : InputNoteRecord) : Option Note := if c.converts r then some r.note else none

/-- The calls of a polling loop keep `R`. -/
structure PollKeeps (c : Client σ) (R : σ → σ → Prop) : Prop where
  syncState : Effects.Keeps R c.syncState
  getConsumableNotes : ∀ a, Effects.Keeps R (c.getConsumableNotes a)

/-- The calls that build notes and requests keep `R`. -/
structure BuildKeeps (c : Client σ) (R : σ → σ → Prop) : Prop where
  createBurnNote : ∀ s i a, Effects.Keeps R (c.createBurnNote s i a)
  buildMintFungibleAsset : ∀ a t n, Effects.Keeps R (c.buildMintFungibleAsset a t n)
  buildPayToId : ∀ p n, Effects.Keeps R (c.buildPayToId p n)
  buildOwnOutputNotes : ∀ ns, Effects.Keeps R (c.buildOwnOutputNotes ns)
  buildConsumeNotes : ∀ ns, Effects.Keeps R (c.buildConsumeNotes ns)

/-- Every call that the token operations make keeps `R`. -/
structure Keeps (c : Client σ) (R : σ → σ → Prop) : Prop extends c.PollKeeps R, c.BuildKeeps R where
  submitNewTransaction : ∀ a r, Effects.Keeps R (c.submitNewTransaction a r)

/-- Building, and submitting without success, keep `R`. -/
structure SubmitFailsKeep (c : Client σ) (R : σ → σ → Prop) : Prop extends c.BuildKeeps R where
  submitNewTransaction : ∀ a r, Effects.KeepsOnError R (c.submitNewTransaction a r)

/-- The client when, before each of its calls, others change the state by `f`. -/
@[simps] def interleaved (c : Client σ) (f : σ → σ) : Client σ where
  fungibleAssetNew := c.fungibleAssetNew
  createBurnNote sender issuer asset := .after f (c.createBurnNote sender issuer asset)
  buildMintFungibleAsset asset target noteType := .after f (c.buildMintFungibleAsset asset target noteType)
  buildPayToId payment noteType := .after f (c.buildPayToId payment noteType)
  buildOwnOutputNotes notes := .after f (c.buildOwnOutputNotes notes)
  buildConsumeNotes notes := .after f (c.buildConsumeNotes notes)
  syncState := .after f c.syncState
  getConsumableNotes a := .after f (c.getConsumableNotes a)
  converts := c.converts
  submitNewTransaction a req := .after f (c.submitNewTransaction a req)
  getAccount a := .after f (c.getAccount a)

section Interference

variable {c : Client σ} {R : σ → σ → Prop} [IsTrans σ R] {f : σ → σ}

theorem PollKeeps.interleaved (h : c.PollKeeps R) (hf : ∀ s, R s (f s)) : (c.interleaved f).PollKeeps R where
  syncState := Effects.Keeps.after (f := f) hf h.syncState
  getConsumableNotes a := Effects.Keeps.after (f := f) hf (h.getConsumableNotes a)

theorem BuildKeeps.interleaved (h : c.BuildKeeps R) (hf : ∀ s, R s (f s)) : (c.interleaved f).BuildKeeps R where
  createBurnNote s i a := Effects.Keeps.after (f := f) hf (h.createBurnNote s i a)
  buildMintFungibleAsset a t n := Effects.Keeps.after (f := f) hf (h.buildMintFungibleAsset a t n)
  buildPayToId p n := Effects.Keeps.after (f := f) hf (h.buildPayToId p n)
  buildOwnOutputNotes ns := Effects.Keeps.after (f := f) hf (h.buildOwnOutputNotes ns)
  buildConsumeNotes ns := Effects.Keeps.after (f := f) hf (h.buildConsumeNotes ns)

/-- **Interference rule**: what the others and the calls of the client keep, the interleaved client keeps. -/
theorem Keeps.interleaved (h : c.Keeps R) (hf : ∀ s, R s (f s)) : (c.interleaved f).Keeps R where
  toPollKeeps := h.toPollKeeps.interleaved hf
  toBuildKeeps := h.toBuildKeeps.interleaved hf
  submitNewTransaction a req := Effects.Keeps.after (f := f) hf (h.submitNewTransaction a req)

end Interference

end Client

end BraleMiden
