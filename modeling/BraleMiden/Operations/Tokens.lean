import BraleMiden.Operations.Client

/-!
# Mint, burn, transfer, consume

The token operations of `operations.rs`, over any client. Logging and the printed explorer links are left out.

`burn_tokens` (step 2) and `consume_notes` have the same body with other texts: poll until some note is consumable,
query again, convert what converts, consume it in one transaction. It is `consumeAvailable` here, with the texts in a
`ConsumeTexts`.

* `TokenCall.op_keeps`: what all calls of a client keep, the four operations keep;
* `mintTokens_keepsOnError`, …: what all calls but accepted submissions keep, a failing operation keeps (a burn: its
  first step);
* `pollLoop_ok`, `consumeAvailable_ok`: a poll that ends well has just seen a non-empty list.
-/

namespace BraleMiden

open Effects

variable {σ : Type}

/-- `max_attempts`. -/
def maxAttempts : ℕ := 120

/-- The texts in which the two polling loops differ. -/
structure ConsumeTexts where
  sync : String
  query : String
  exhausted : String
  build : String
  submit : String

/-! ## The shared loop -/

/-- One attempt of the polling loop; `true` leaves it. -/
def pollAttempt (c : Client σ) (t : ConsumeTexts) (account : AccountId) (attempt : ℕ) : Op σ Error Bool := do
  context t.sync c.syncState
  let consumable ← context t.query (c.getConsumableNotes account)
  if !consumable.isEmpty then
    return true
  if attempt == maxAttempts then
    bail t.exhausted
  return false

/-- `for attempt in 1..=max_attempts`. -/
def pollLoop (c : Client σ) (t : ConsumeTexts) (account : AccountId) : Op σ Error Unit :=
  forBreak (pollAttempt c t account) (List.range' 1 maxAttempts)

/-- Poll until some note is consumable, then consume what the query gives and converts. -/
def consumeAvailable (c : Client σ) (t : ConsumeTexts) (account : AccountId) : Op σ Error Unit := do
  pollLoop c t account
  let consumable ← context t.query (c.getConsumableNotes account)
  let notes := consumable.filterMap fun p => c.tryInto p.1
  let txRequest ← context t.build (c.buildConsumeNotes notes)
  context t.submit (c.submitNewTransaction account txRequest)

/-! ## The operations -/

/-- `mint_tokens` -/
def mintTokens (c : Client σ) (issuerId targetId : AccountId) (amount : ℕ) : Op σ Error Unit := do
  let asset ← context "failed to create fungible asset for minting" (lift (c.fungibleAssetNew issuerId amount))
  let txRequest ← context "failed to build mint transaction request"
    (c.buildMintFungibleAsset asset targetId .priv)
  context "failed to submit mint transaction" (c.submitNewTransaction issuerId txRequest)

/-- The texts of step 2 of `burn_tokens`. -/
def burnTexts : ConsumeTexts where
  sync := "failed to sync state after burn note creation"
  query := "failed to get consumable notes for issuer"
  exhausted := s!"no consumable burn notes found for issuer after {maxAttempts} sync attempts"
  build := "failed to build consume burn notes transaction"
  submit := "failed to submit burn consumption transaction"

/-- Step 1 of `burn_tokens`: the sender creates the burn note as an output. -/
def createBurnOutput (c : Client σ) (senderId issuerId : AccountId) (amount : ℕ) : Op σ Error Unit := do
  let asset ← context "failed to create fungible asset for burning" (lift (c.fungibleAssetNew issuerId amount))
  let burnNote ← context "failed to create burn note" (c.createBurnNote senderId issuerId asset)
  let txRequest ← context "failed to build burn sender transaction" (c.buildOwnOutputNotes [burnNote])
  context "failed to submit burn sender transaction" (c.submitNewTransaction senderId txRequest)

/-- `burn_tokens`: create the burn note, then wait and let the issuer consume. -/
def burnTokens (c : Client σ) (senderId issuerId : AccountId) (amount : ℕ) : Op σ Error Unit := do
  createBurnOutput c senderId issuerId amount
  consumeAvailable c burnTexts issuerId

/-- `transfer_tokens` -/
def transferTokens (c : Client σ) (senderId recipientId issuerId : AccountId) (amount : ℕ) : Op σ Error Unit := do
  let asset ← context "failed to create fungible asset for transfer" (lift (c.fungibleAssetNew issuerId amount))
  let txRequest ← context "failed to build P2ID transfer request"
    (c.buildPayToId ⟨asset, senderId, recipientId⟩ .priv)
  context "failed to submit transfer transaction" (c.submitNewTransaction senderId txRequest)

/-- The texts of `consume_notes`. -/
def consumeTexts (accountId : AccountId) : ConsumeTexts where
  sync := "failed to sync state"
  query := "failed to get consumable notes"
  exhausted := s!"no consumable notes found for {accountId} after {maxAttempts} sync attempts"
  build := "failed to build consume notes transaction"
  submit := "failed to submit consume notes transaction"

/-- `consume_notes` -/
def consumeNotes (c : Client σ) (accountId : AccountId) : Op σ Error Unit :=
  consumeAvailable c (consumeTexts accountId) accountId

/-- A call of one of the four operations, with its arguments. -/
inductive TokenCall
  | mint (issuerId targetId : AccountId) (amount : ℕ)
  | transfer (senderId recipientId issuerId : AccountId) (amount : ℕ)
  | consume (accountId : AccountId)
  | burn (senderId issuerId : AccountId) (amount : ℕ)
deriving DecidableEq, Repr

/-- The operation that is called. -/
def TokenCall.op (c : Client σ) : TokenCall → Op σ Error Unit
  | .mint i t n => mintTokens c i t n
  | .transfer s r i n => transferTokens c s r i n
  | .consume a => consumeNotes c a
  | .burn s i n => burnTokens c s i n

/-- The accounts whose transactions the operation submits. -/
def TokenCall.authorisers : TokenCall → List AccountId
  | .mint i _ _ => [i]
  | .transfer s _ _ _ => [s]
  | .consume a => [a]
  | .burn s i _ => [s, i]

/-! ## What the operations keep -/

section Keeps

variable {c : Client σ} {R : σ → σ → Prop} [IsPreorder σ R]

theorem pollAttempt_keeps (h : c.PollKeeps R) (t : ConsumeTexts) (a : AccountId) (attempt : ℕ) :
    Keeps R (pollAttempt c t a attempt) :=
  .bind (h.syncState.mapError _) fun _ => .bind ((h.getConsumableNotes a).mapError _) fun consumable => by
    cases consumable.isEmpty
    · exact .pure true
    · cases attempt == maxAttempts
      · exact .pure false
      · exact .bind (.throw _) fun _ => .pure false

theorem pollLoop_keeps (h : c.PollKeeps R) (t : ConsumeTexts) (a : AccountId) : Keeps R (pollLoop c t a) :=
  forBreak_keeps (pollAttempt_keeps h t a) _

theorem consumeAvailable_keeps (h : c.Keeps R) (t : ConsumeTexts) (a : AccountId) :
    Keeps R (consumeAvailable c t a) :=
  .bind (pollLoop_keeps h.toPollKeeps t a) fun _ => .bind ((h.getConsumableNotes a).mapError _) fun _ =>
    .bind ((h.buildConsumeNotes _).mapError _) fun _ => (h.submitNewTransaction a _).mapError _

theorem mintTokens_keeps (h : c.Keeps R) (i t : AccountId) (n : ℕ) : Keeps R (mintTokens c i t n) :=
  .bind ((Keeps.ofExcept _).mapError _) fun _ => .bind ((h.buildMintFungibleAsset _ _ _).mapError _) fun _ =>
    (h.submitNewTransaction _ _).mapError _

theorem createBurnOutput_keeps (h : c.Keeps R) (s i : AccountId) (n : ℕ) : Keeps R (createBurnOutput c s i n) :=
  .bind ((Keeps.ofExcept _).mapError _) fun _ => .bind ((h.createBurnNote _ _ _).mapError _) fun _ =>
    .bind ((h.buildOwnOutputNotes _).mapError _) fun _ => (h.submitNewTransaction _ _).mapError _

theorem burnTokens_keeps (h : c.Keeps R) (s i : AccountId) (n : ℕ) : Keeps R (burnTokens c s i n) :=
  .bind (createBurnOutput_keeps h s i n) fun _ => consumeAvailable_keeps h burnTexts i

theorem transferTokens_keeps (h : c.Keeps R) (s r i : AccountId) (n : ℕ) : Keeps R (transferTokens c s r i n) :=
  .bind ((Keeps.ofExcept _).mapError _) fun _ => .bind ((h.buildPayToId _ _).mapError _) fun _ =>
    (h.submitNewTransaction _ _).mapError _

theorem consumeNotes_keeps (h : c.Keeps R) (a : AccountId) : Keeps R (consumeNotes c a) :=
  consumeAvailable_keeps h _ a

theorem TokenCall.op_keeps (h : c.Keeps R) : ∀ call : TokenCall, Keeps R (call.op c)
  | .mint i t n => mintTokens_keeps h i t n
  | .transfer s r i n => transferTokens_keeps h s r i n
  | .consume a => consumeNotes_keeps h a
  | .burn s i n => burnTokens_keeps h s i n

/-! ### What failing operations keep -/

theorem consumeAvailable_keepsOnError (hp : c.PollKeeps R) (h : c.SubmitFailsKeep R) (t : ConsumeTexts)
    (a : AccountId) : KeepsOnError R (consumeAvailable c t a) :=
  .bind (pollLoop_keeps hp t a) fun _ => .bind ((hp.getConsumableNotes a).mapError _) fun _ =>
    .bind ((h.buildConsumeNotes _).mapError _) fun _ => (h.submitNewTransaction a _).mapError _

theorem mintTokens_keepsOnError (h : c.SubmitFailsKeep R) (i t : AccountId) (n : ℕ) :
    KeepsOnError R (mintTokens c i t n) :=
  .bind ((Keeps.ofExcept _).mapError _) fun _ => .bind ((h.buildMintFungibleAsset _ _ _).mapError _) fun _ =>
    (h.submitNewTransaction _ _).mapError _

theorem transferTokens_keepsOnError (h : c.SubmitFailsKeep R) (s r i : AccountId) (n : ℕ) :
    KeepsOnError R (transferTokens c s r i n) :=
  .bind ((Keeps.ofExcept _).mapError _) fun _ => .bind ((h.buildPayToId _ _).mapError _) fun _ =>
    (h.submitNewTransaction _ _).mapError _

theorem createBurnOutput_keepsOnError (h : c.SubmitFailsKeep R) (s i : AccountId) (n : ℕ) :
    KeepsOnError R (createBurnOutput c s i n) :=
  .bind ((Keeps.ofExcept _).mapError _) fun _ => .bind ((h.createBurnNote _ _ _).mapError _) fun _ =>
    .bind ((h.buildOwnOutputNotes _).mapError _) fun _ => (h.submitNewTransaction _ _).mapError _

end Keeps

/-! ## How a poll ends well -/

section Ok

variable {c : Client σ} {t : ConsumeTexts} {a : AccountId} {s s' : σ}

/-- An attempt leaves the loop when its sync and its query succeed and the list is not empty. -/
theorem pollAttempt_true {attempt : ℕ} : Op.run (pollAttempt c t a attempt) s = (.ok true, s') ↔
    ∃ s₁ l, Op.run c.syncState s = (.ok (), s₁) ∧ Op.run (c.getConsumableNotes a) s₁ = (.ok l, s') ∧ l ≠ [] := by
  simp only [pollAttempt, context, Op.run_bind_ok, Op.run_mapError_ok]
  constructor
  · rintro ⟨_, s₁, h₁, l, s₂, h₂, h⟩
    cases l with
    | nil =>
      simp only [List.isEmpty_nil, Bool.not_true, Bool.false_eq_true, ↓reduceIte] at h
      split at h
      · cases h
      · cases h
    | cons r rs =>
      cases h
      exact ⟨s₁, r :: rs, h₁, h₂, by simp⟩
  · rintro ⟨s₁, l, h₁, h₂, hl⟩
    refine ⟨(), s₁, h₁, l, s', h₂, ?_⟩
    cases l with
    | nil => exact absurd rfl hl
    | cons r rs => rfl

/-- An attempt goes on when its list is empty and it is not the last. -/
theorem pollAttempt_false {attempt : ℕ} : Op.run (pollAttempt c t a attempt) s = (.ok false, s') ↔
    attempt ≠ maxAttempts ∧
      ∃ s₁, Op.run c.syncState s = (.ok (), s₁) ∧ Op.run (c.getConsumableNotes a) s₁ = (.ok [], s') := by
  simp only [pollAttempt, context, Op.run_bind_ok, Op.run_mapError_ok]
  constructor
  · rintro ⟨_, s₁, h₁, l, s₂, h₂, h⟩
    cases l with
    | nil =>
      simp only [List.isEmpty_nil, Bool.not_true, Bool.false_eq_true, ↓reduceIte] at h
      split at h
      · cases h
      · rename_i hne
        cases h
        exact ⟨by simpa using hne, s₁, h₁, h₂⟩
    | cons r rs => cases h
  · rintro ⟨hne, s₁, h₁, h₂⟩
    exact ⟨(), s₁, h₁, [], s', h₂, by simp [hne]⟩

/-- The loop ends well by leaving it at some attempt: the last one never asks to go on. -/
theorem pollLoop_ok {R : σ → σ → Prop} [IsPreorder σ R] (hk : c.PollKeeps R)
    (h : Op.run (pollLoop c t a) s = (.ok (), s')) :
    ∃ s₁ s₂ l, R s s₁ ∧ Op.run c.syncState s₁ = (.ok (), s₂) ∧
      Op.run (c.getConsumableNotes a) s₂ = (.ok l, s') ∧ l ≠ [] := by
  have hlast : ∀ i ∈ (List.range' 1 maxAttempts).getLast?, ∀ u u',
      Op.run (pollAttempt c t a i) u ≠ (.ok false, u') := by
    intro i hi u u' hrun
    have hi' : i = maxAttempts := by simpa [maxAttempts, List.getLast?_range'] using hi.symm
    exact (pollAttempt_false.1 hrun).1 hi'
  obtain ⟨i, -, s₁, hR, hrun⟩ := forBreak_ok (pollAttempt_keeps hk t a) (by simp [maxAttempts]) hlast h
  obtain ⟨s₂, l, h₁, h₂, hl⟩ := pollAttempt_true.1 hrun
  exact ⟨s₁, s₂, l, hR, h₁, h₂, hl⟩

/-- If the first attempt finds a note, the loop ends there. -/
theorem pollLoop_of_first {s₁ : σ} {l : List (InputNoteRecord × NoteConsumptionStatus)}
    (hs : Op.run c.syncState s = (.ok (), s₁)) (hq : Op.run (c.getConsumableNotes a) s₁ = (.ok l, s')) (hl : l ≠ []) :
    Op.run (pollLoop c t a) s = (.ok (), s') :=
  forBreak_cons_true (pollAttempt_true.2 ⟨s₁, l, hs, hq, hl⟩) _

/-- The calls after the loop, one by one. -/
theorem consumeAvailable_ok : Op.run (consumeAvailable c t a) s = (.ok (), s') ↔
    ∃ s₁ l s₂ req s₃, Op.run (pollLoop c t a) s = (.ok (), s₁) ∧ Op.run (c.getConsumableNotes a) s₁ = (.ok l, s₂) ∧
      Op.run (c.buildConsumeNotes (l.filterMap fun p => c.tryInto p.1)) s₂ = (.ok req, s₃) ∧
      Op.run (c.submitNewTransaction a req) s₃ = (.ok (), s') := by
  simp only [consumeAvailable, context, Op.run_bind_ok, Op.run_mapError_ok]
  constructor
  · rintro ⟨_, s₁, h₁, l, s₂, h₂, req, s₃, h₃, h₄⟩
    exact ⟨s₁, l, s₂, req, s₃, h₁, h₂, h₃, h₄⟩
  · rintro ⟨s₁, l, s₂, req, s₃, h₁, h₂, h₃, h₄⟩
    exact ⟨(), s₁, h₁, l, s₂, h₂, req, s₃, h₃, h₄⟩

/-- An operation with one transaction ends well when its asset is accepted, its request is built and its transaction is
accepted, whatever the texts are. -/
theorem oneTransaction_ok {m m' m'' : String} {r : Except Error FungibleAsset}
    {build : FungibleAsset → Op σ Error TransactionRequest} {submit : TransactionRequest → Op σ Error Unit} :
    Op.run (do
        let asset ← context m (lift r)
        let txRequest ← context m' (build asset)
        context m'' (submit txRequest)) s = (.ok (), s') ↔
      ∃ asset req s₁, r = .ok asset ∧ Op.run (build asset) s = (.ok req, s₁) ∧
        Op.run (submit req) s₁ = (.ok (), s') := by
  constructor
  · intro h
    obtain ⟨asset, _, hlift, hrest⟩ := Op.run_bind_ok.1 h
    obtain ⟨hasset, rfl⟩ := run_context_lift_ok.1 hlift
    obtain ⟨req, s₁, hbuild, hsubmit⟩ := Op.run_bind_ok.1 hrest
    exact ⟨asset, req, s₁, hasset, run_context_ok.1 hbuild, run_context_ok.1 hsubmit⟩
  · intro h
    obtain ⟨asset, req, s₁, hasset, hbuild, hsubmit⟩ := h
    refine Op.run_bind_ok.2 ⟨asset, s, run_context_lift_ok.2 ⟨hasset, rfl⟩, ?_⟩
    exact Op.run_bind_ok.2 ⟨req, s₁, run_context_ok.2 hbuild, run_context_ok.2 hsubmit⟩

theorem mintTokens_ok {i tgt : AccountId} {n : ℕ} : Op.run (mintTokens c i tgt n) s = (.ok (), s') ↔
    ∃ asset req s₁, c.fungibleAssetNew i n = .ok asset ∧
      Op.run (c.buildMintFungibleAsset asset tgt .priv) s = (.ok req, s₁) ∧
      Op.run (c.submitNewTransaction i req) s₁ = (.ok (), s') := oneTransaction_ok

theorem transferTokens_ok {snd rcp i : AccountId} {n : ℕ} :
    Op.run (transferTokens c snd rcp i n) s = (.ok (), s') ↔
      ∃ asset req s₁, c.fungibleAssetNew i n = .ok asset ∧
        Op.run (c.buildPayToId ⟨asset, snd, rcp⟩ .priv) s = (.ok req, s₁) ∧
        Op.run (c.submitNewTransaction snd req) s₁ = (.ok (), s') := oneTransaction_ok

theorem createBurnOutput_ok {snd i : AccountId} {n : ℕ} :
    Op.run (createBurnOutput c snd i n) s = (.ok (), s') ↔
      ∃ asset note s₁ req s₂, c.fungibleAssetNew i n = .ok asset ∧
        Op.run (c.createBurnNote snd i asset) s = (.ok note, s₁) ∧
        Op.run (c.buildOwnOutputNotes [note]) s₁ = (.ok req, s₂) ∧
        Op.run (c.submitNewTransaction snd req) s₂ = (.ok (), s') := by
  simp only [createBurnOutput, context, lift, Op.run_bind_ok, Op.run_mapError_ok, Op.run_ofExcept, Prod.mk.injEq]
  constructor
  · rintro ⟨asset, _, ⟨ha, rfl⟩, note, s₁, h₁, req, s₂, h₂, h₃⟩
    exact ⟨asset, note, s₁, req, s₂, ha, h₁, h₂, h₃⟩
  · rintro ⟨asset, note, s₁, req, s₂, ha, h₁, h₂, h₃⟩
    exact ⟨asset, s, ⟨ha, rfl⟩, note, s₁, h₁, req, s₂, h₂, h₃⟩

theorem burnTokens_ok {snd i : AccountId} {n : ℕ} : Op.run (burnTokens c snd i n) s = (.ok (), s') ↔
    ∃ s₁, Op.run (createBurnOutput c snd i n) s = (.ok (), s₁) ∧
      Op.run (consumeAvailable c burnTexts i) s₁ = (.ok (), s') := by
  rw [burnTokens, Op.run_bind_ok]
  exact ⟨fun ⟨_, s₁, h⟩ => ⟨s₁, h⟩, fun ⟨s₁, h⟩ => ⟨(), s₁, h⟩⟩

/-- A burn fails in its first step, or after it. -/
theorem burnTokens_error {snd i : AccountId} {n : ℕ} {e : Error} :
    Op.run (burnTokens c snd i n) s = (.error e, s') ↔
      Op.run (createBurnOutput c snd i n) s = (.error e, s') ∨
        ∃ s₁, Op.run (createBurnOutput c snd i n) s = (.ok (), s₁) ∧
          Op.run (consumeAvailable c burnTexts i) s₁ = (.error e, s') := by
  rw [burnTokens, Op.run_bind_error]
  exact or_congr_right ⟨fun ⟨_, s₁, h⟩ => ⟨s₁, h⟩, fun ⟨s₁, h⟩ => ⟨(), s₁, h⟩⟩

/-- An operation that ends well has had a transaction of each of its accounts accepted. -/
theorem TokenCall.submits_of_ok {call : TokenCall} (h : Op.run (call.op c) s = (.ok (), s')) :
    ∀ a ∈ call.authorisers, ∃ req s₁ s₂, Op.run (c.submitNewTransaction a req) s₁ = (.ok (), s₂) := by
  intro a ha
  cases call with
  | mint i t n =>
    obtain rfl := List.mem_singleton.1 ha
    obtain ⟨-, req, s₁, -, -, hsub⟩ := mintTokens_ok.1 h
    exact ⟨req, s₁, s', hsub⟩
  | transfer snd r i n =>
    obtain rfl := List.mem_singleton.1 ha
    obtain ⟨-, req, s₁, -, -, hsub⟩ := transferTokens_ok.1 h
    exact ⟨req, s₁, s', hsub⟩
  | consume b =>
    obtain rfl := List.mem_singleton.1 ha
    obtain ⟨-, -, -, req, s₁, -, -, -, hsub⟩ := consumeAvailable_ok.1 h
    exact ⟨req, s₁, s', hsub⟩
  | burn snd i n =>
    obtain ⟨t, hfirst, hsecond⟩ := burnTokens_ok.1 h
    obtain rfl | hi := List.mem_cons.1 ha
    · obtain ⟨-, -, -, req, s₁, -, -, -, hsub⟩ := createBurnOutput_ok.1 hfirst
      exact ⟨req, s₁, t, hsub⟩
    · obtain rfl := List.mem_singleton.1 hi
      obtain ⟨-, -, -, req, s₁, -, -, -, hsub⟩ := consumeAvailable_ok.1 hsecond
      exact ⟨req, s₁, s', hsub⟩

/-- An operation that ends well submits for each of its accounts in a state that its calls have led to. -/
theorem TokenCall.submits_from {R : σ → σ → Prop} [IsPreorder σ R] (hk : c.Keeps R) {call : TokenCall}
    (h : Op.run (call.op c) s = (.ok (), s')) :
    ∀ a ∈ call.authorisers, ∃ req s₁ s₂, R s s₁ ∧ Op.run (c.submitNewTransaction a req) s₁ = (.ok (), s₂) := by
  have hconsume : ∀ {t u v a}, Op.run (consumeAvailable c t a) u = (.ok (), v) →
      ∃ req u₁, R u u₁ ∧ Op.run (c.submitNewTransaction a req) u₁ = (.ok (), v) := by
    intro t u v a hrun
    obtain ⟨u₁, _, u₂, req, u₃, hloop, hquery, hbuild, hsub⟩ := consumeAvailable_ok.1 hrun
    have h₁ : R u u₁ := (pollLoop_keeps hk.toPollKeeps t a).of_run hloop
    have h₂ : R u₁ u₂ := (hk.getConsumableNotes a).of_run hquery
    have h₃ : R u₂ u₃ := (hk.buildConsumeNotes _).of_run hbuild
    exact ⟨req, u₃, trans_of R (trans_of R h₁ h₂) h₃, hsub⟩
  intro a ha
  cases call with
  | mint i t n =>
    obtain rfl := List.mem_singleton.1 ha
    obtain ⟨_, req, s₁, -, hbuild, hsub⟩ := mintTokens_ok.1 h
    exact ⟨req, s₁, s', (hk.buildMintFungibleAsset _ _ _).of_run hbuild, hsub⟩
  | transfer snd r i n =>
    obtain rfl := List.mem_singleton.1 ha
    obtain ⟨_, req, s₁, -, hbuild, hsub⟩ := transferTokens_ok.1 h
    exact ⟨req, s₁, s', (hk.buildPayToId _ _).of_run hbuild, hsub⟩
  | consume b =>
    obtain rfl := List.mem_singleton.1 ha
    obtain ⟨req, s₁, hR, hsub⟩ := hconsume h
    exact ⟨req, s₁, s', hR, hsub⟩
  | burn snd i n =>
    obtain ⟨t, hfirst, hsecond⟩ := burnTokens_ok.1 h
    obtain rfl | hi := List.mem_cons.1 ha
    · obtain ⟨_, _, s₁, req, s₂, -, hnote, hbuild, hsub⟩ := createBurnOutput_ok.1 hfirst
      have h₁ : R s s₁ := (hk.createBurnNote _ _ _).of_run hnote
      exact ⟨req, s₂, t, trans_of R h₁ ((hk.buildOwnOutputNotes _).of_run hbuild), hsub⟩
    · obtain rfl := List.mem_singleton.1 hi
      obtain ⟨req, s₁, hR, hsub⟩ := hconsume hsecond
      exact ⟨req, s₁, s', trans_of R ((createBurnOutput_keeps hk snd _ n).of_run hfirst) hR, hsub⟩

end Ok

end BraleMiden
