import BraleMiden.Chain.Atomicity
import BraleMiden.Chain.Clearing

/-!
# Histories of a bank

Calls of the bank may fail, the issuer may consume what is left over, blocks come at any time, and the other accounts do
what they like. A burn that fails after its first transaction has requested its amount.

* `Clears.call`: every call of the bank, however it ends;
* `bank_clears`: whole histories, and what the reads answer after them;
* `burn_attempts`: what a burn that is tried again and again takes.
-/

namespace BraleMiden

open Effects Systems Accounting Chain

/-! ## Calls of the bank -/

/-- The call is about the bank's issuer and wallets. Unlike `Bank.Serves`, the issuer may consume too. -/
def Bank.Uses (B : Bank) : TokenCall → Prop
  | .mint i t _ => i = B.issuer ∧ t ∈ B.wallets
  | .transfer snd rcp i _ => snd ∈ B.wallets ∧ rcp ∈ B.wallets ∧ i = B.issuer
  | .consume a => a ∈ B.accounts
  | .burn snd i _ => snd ∈ B.wallets ∧ i = B.issuer

/-- What a call is entered as, by how it ended and the notes `taken` that were consumed by it. A burn that failed may
have requested its amount; what the issuer settles is what the notes carry that it consumed. -/
def TokenCall.Posts (B : Bank) (taken : List Note) : TokenCall → Except Error Unit → List (Entry AccountId) → Prop
  | .mint _ t n, .ok _, es => es = [.mint t n]
  | .transfer snd rcp _ n, .ok _, es => es = [.transfer snd rcp n]
  | .consume a, .ok _, es => es = if a = B.issuer then [.settle (amountOf taken)] else []
  | .burn snd _ n, .ok _, es => es = [.request snd n, .settle (amountOf taken)]
  | .burn snd _ n, .error _, es => es = [] ∨ es = [.request snd n]
  | _, .error _, es => es = []

section Calls

variable {P : Params} {me : ClientId} {env : Env} {B : Bank} {s s' : Session Chain} {L : Clearing AccountId}
  {a snd : AccountId} {n : ℕ}

/-- A ledger that makes one entry. -/
theorem run_post {L : Clearing AccountId} {e : Entry AccountId} (h : L.Covers e) : Run clearing L [e] (L.post e) :=
  .cons ⟨h, rfl⟩ (.nil _)

/-- Step 1 of a burn requests the amount. -/
theorem Clears.createBurnOutput (h : Clears P B s.state L) (hsnd : snd ∈ B.wallets)
    (hrun : Op.run (createBurnOutput (chainClient P me env) snd B.issuer n) s = (.ok (), s')) :
    L.Covers (.request snd n) ∧ Clears P B s'.state (L.post (.request snd n)) := by
  obtain ⟨-, -, -, c, hout, rfl⟩ := createBurnOutput_chain.1 hrun
  have hw : ¬ snd.isFaucet = true := by simp [B.not_isFaucet snd hsnd]
  have hle := hout.le_vault hw rfl
  have hs : Sound P c := h.sound.submit (submit_output_iff.2 hout)
  exact ⟨h.covered hsnd hle, h.request hs hsnd hle hout.moved⟩

/-- A consumption by the issuer settles what it takes. -/
theorem Clears.consumeIssuer {t : ConsumeTexts} (h : Clears P B s.state L)
    (hrun : Op.run (consumeAvailable (chainClient P me env) t B.issuer) s = (.ok (), s')) :
    L.Covers (.settle (amountOf (s.state.taken s'.state))) ∧
      Clears P B s'.state (L.post (.settle (amountOf (s.state.taken s'.state)))) := by
  have hs : Sound P s'.state := (consumeAvailable_keeps Chain.Sound.keeps t B.issuer).of_run hrun h.sound
  obtain ⟨ns, hns⟩ := (consumeAvailable_chain hrun).collected
  rw [hns.amountOf_taken]
  exact h.settle hs hns

/-- A call that ends well. -/
theorem Clears.call_ok {call : TokenCall} (h : Clears P B s.state L) (huses : B.Uses call)
    (hrun : Op.run (call.op (chainClient P me env)) s = (.ok (), s')) :
    ∃ es L', call.Posts B (s.state.taken s'.state) (.ok ()) es ∧ Run clearing L es L' ∧ Clears P B s'.state L' := by
  have hs : Sound P s'.state := (call.op_keeps Chain.Sound.keeps).of_run hrun h.sound
  cases call with
  | mint i t n =>
    obtain ⟨rfl, ht⟩ := huses
    have hm := (mintTokens_chain hrun).2.2.moved
    exact ⟨_, _, rfl, run_post trivial, h.mint hs ⟨rfl, rfl, rfl, ht⟩ hm⟩
  | transfer snd rcp i n =>
    obtain ⟨hsnd, hrcp, rfl⟩ := huses
    have hout := (transferTokens_chain hrun).2.2
    have hle := hout.le_vault (by simp [B.not_isFaucet snd hsnd]) rfl
    exact ⟨_, _, rfl, run_post (h.covered hsnd hle), h.transfer hs hsnd ⟨rfl, rfl, rfl, hrcp⟩ hle hout.moved⟩
  | consume a =>
    rcases Finset.mem_insert.1 huses with rfl | ha
    · obtain ⟨hcov, hL⟩ := h.consumeIssuer hrun
      exact ⟨_, _, by rw [TokenCall.Posts, if_pos rfl], run_post hcov, hL⟩
    · obtain ⟨ns, hns⟩ := (consumeAvailable_chain hrun).collected
      exact ⟨[], L, by rw [TokenCall.Posts, if_neg (B.ne_issuer ha)], .nil L, h.collect hs ha hns⟩
  | burn snd i n =>
    obtain ⟨hsnd, rfl⟩ := huses
    obtain ⟨s₁, hfirst, hsecond⟩ := burnTokens_ok.1 hrun
    obtain ⟨hcov, h₁⟩ := h.createBurnOutput hsnd hfirst
    obtain ⟨hcov', h₂⟩ := h₁.consumeIssuer hsecond
    -- the note of the first step is new, so all that is consumed is taken by the second
    obtain ⟨-, -, -, c, hout, rfl⟩ := createBurnOutput_chain.1 hfirst
    exact ⟨_, _, hout.taken_eq ▸ rfl, (run_post hcov).append (run_post hcov'), h₂⟩

/-- A call that fails: it has only synced, or it is a burn that has requested its amount. -/
theorem Clears.call_error {call : TokenCall} {e : Error} (h : Clears P B s.state L) (huses : B.Uses call)
    (hrun : Op.run (call.op (chainClient P me env)) s = (.error e, s')) :
    ∃ es L', call.Posts B (s.state.taken s'.state) (.error e) es ∧ Run clearing L es L' ∧ Clears P B s'.state L' := by
  by_cases hfirst : FirstStepAccepted P env s call
  · cases call with
    | burn snd i n =>
      obtain ⟨hsnd, rfl⟩ := huses
      have hok : ∃ s₁, Op.run (BraleMiden.createBurnOutput (chainClient P me env) snd B.issuer n) s = (.ok (), s₁) :=
        firstStepAccepted_burn.1 hfirst
      obtain ⟨s₁, hout⟩ := hok
      rcases burnTokens_error.1 hrun with herr | ⟨s₂, hout', hcons⟩
      · rw [hout] at herr
        cases herr
      · obtain ⟨hcov, h₁⟩ := h.createBurnOutput hsnd hout'
        exact ⟨_, _, .inr rfl, run_post hcov, h₁.synced (consumeAvailable_error hcons)⟩
    | mint i t n => exact hfirst.elim
    | transfer snd rcp i n => exact hfirst.elim
    | consume a => exact hfirst.elim
  · refine ⟨[], L, ?_, .nil L, h.synced (error_synced hrun hfirst)⟩
    cases call with
    | burn snd i n => exact .inl rfl
    | mint i t n => rfl
    | transfer snd rcp i n => rfl
    | consume a => rfl

/-- **Every call of the bank, however it ends.** -/
theorem Clears.call {call : TokenCall} {r : Except Error Unit} (h : Clears P B s.state L) (huses : B.Uses call)
    (hrun : Op.run (call.op (chainClient P me env)) s = (r, s')) :
    ∃ es L', call.Posts B (s.state.taken s'.state) r es ∧ Run clearing L es L' ∧ Clears P B s'.state L' := by
  cases r with
  | ok u => exact h.call_ok huses hrun
  | error e => exact h.call_error huses hrun

end Calls

/-! ## Histories -/

/-- What happens to the chain: a call of the bank, with how it ended and the notes that it consumed, a transaction of
somebody else, or a block. -/
inductive Happening
  | call (call : TokenCall) (result : Except Error Unit) (taken : List Note)
  | outside (creator : ClientId) (account : AccountId) (request : TransactionRequest)
  | block (incl : NoteId → Bool)

/-- What an event is entered as. -/
def Happening.Posts (B : Bank) : Happening → List (Entry AccountId) → Prop
  | .call c r taken, es => c.Posts B taken r es
  | .outside _ _ _, es => es = []
  | .block _, es => es = []

section Histories

variable {P : Params} {me : ClientId} {B : Bank} {s s₀ : Chain} {L : Clearing AccountId}

theorem Fresh.clears (h : Fresh P s) (hacc : B.accounts ⊆ s.accounts) : Clears P B s .empty := by
  have hnil : s.notes.unconsumed = [] := by
    rw [h.notes]
    rfl
  refine ⟨⟨h.sound, hacc, ?_, ?_⟩, ?_, ?_, ?_, Clearing.balanced_empty⟩
  · intro X _ _
    rw [h.vault]
    rfl
  · rw [hnil]
    intro n hn
    cases hn
  · intro X _
    rw [h.vault, owed, h.notes]
    rfl
  · rw [h.issuance]
    rfl
  · rw [burning, h.notes]
    rfl

end Histories

/-! ## A burn that is tried again -/

section Attempts

variable {P : Params} {me : ClientId} {B : Bank} {L : Clearing AccountId} {snd : AccountId} {n : ℕ}

/-- Attempts at one burn, however they end, each with whether its first transaction was accepted. -/
def burnAttempts (P : Params) (me : ClientId) (B : Bank) (snd : AccountId) (n : ℕ) : System Chain Bool where
  init _ := True
  step s accepted s' := ∃ env k r k',
    Op.run (burnTokens (chainClient P me env) snd B.issuer n) ⟨s, k⟩ = (r, ⟨s', k'⟩) ∧
      (accepted = true ↔ FirstStepAccepted P env ⟨s, k⟩ (.burn snd B.issuer n))

/-- What a wallet has in its vault and on the way to it. -/
def Chain.holding (s : Chain) (f X : AccountId) : ℕ := s.vault X f + s.owed f X

/-- `s'` is `s` after the sender has paid `total` towards burns: what is missing from the issuance is settled, the rest
is pending. -/
structure BurnPaid (B : Bank) (snd : AccountId) (total : ℕ) (s s' : Chain) : Prop where
  sender : s'.holding B.issuer snd + total = s.holding B.issuer snd
  others : ∀ X ∈ B.wallets, X ≠ snd → s'.holding B.issuer X = s.holding B.issuer X
  issuance_le : s'.issuance B.issuer ≤ s.issuance B.issuer
  burning : s'.burning B.issuer + s.issuance B.issuer = s.burning B.issuer + s'.issuance B.issuer + total

theorem BurnPaid.trans {s s₁ s₂ : Chain} {m m' : ℕ} (h : BurnPaid B snd m s s₁) (h' : BurnPaid B snd m' s₁ s₂) :
    BurnPaid B snd (m + m') s s₂ := by
  obtain ⟨hsnd, hothers, hle, hburning⟩ := h
  obtain ⟨hsnd', hothers', hle', hburning'⟩ := h'
  refine ⟨by omega, ?_, by omega, by omega⟩
  intro X hX hne
  rw [hothers' X hX hne, hothers X hX hne]

/-- Two states with ledgers: what the balances say. -/
theorem Clears.burnPaid {s s' : Chain} {L' : Clearing AccountId} {m : ℕ} (h : Clears P B s L) (h' : Clears P B s' L')
    (hsnd : snd ∈ B.wallets) (hbal : L'.balance snd + m = L.balance snd)
    (hothers : ∀ X, X ≠ snd → L'.balance X = L.balance X) (hle : L'.supply ≤ L.supply)
    (hpending : L'.pending + L.supply = L.pending + L'.supply + m) : BurnPaid B snd m s s' where
  sender := by
    have h₁ := h.balance snd hsnd
    have h₂ := h'.balance snd hsnd
    unfold Chain.holding
    omega
  others := by
    intro X hX hne
    unfold Chain.holding
    rw [h.balance X hX, h'.balance X hX, hothers X hne]
  issuance_le := by
    rw [h.supply, h'.supply]
    exact hle
  burning := by
    rw [h.supply, h'.supply, h.pending, h'.pending]
    exact hpending

/-- One attempt: it takes the amount if and only if its first transaction was accepted. -/
theorem Clears.attempt {s s' : Chain} {accepted : Bool} (h : Clears P B s L) (hsnd : snd ∈ B.wallets)
    (hstep : (burnAttempts P me B snd n).step s accepted s') :
    BurnPaid B snd (if accepted then n else 0) s s' ∧ ∃ L', Clears P B s' L' := by
  obtain ⟨env, k, r, k', hrun, hiff⟩ := hstep
  cases accepted with
  | false =>
    -- Without its first step a burn ends with an error, and has only synced.
    have hnot : ¬ FirstStepAccepted P env ⟨s, k⟩ (.burn snd B.issuer n) := fun hf => by simpa using hiff.2 hf
    cases r with
    | ok u =>
      obtain ⟨s₁, hout, -⟩ := burnTokens_ok.1 hrun
      exact absurd (firstStepAccepted_burn.2 ⟨s₁, hout⟩) hnot
    | error e =>
      have hrun' : Op.run (TokenCall.op (chainClient P me env) (.burn snd B.issuer n)) ⟨s, k⟩ = (.error e, ⟨s', k'⟩) :=
        hrun
      have hsync : Synced s s' := error_synced hrun' hnot
      have h' := h.synced hsync
      exact ⟨h.burnPaid h' hsnd rfl (fun _ _ => rfl) (Nat.le_refl _) rfl, L, h'⟩
  | true =>
    obtain ⟨s₁, hout⟩ := firstStepAccepted_burn.1 (hiff.1 rfl)
    rw [burnTokens, Op.run_bind_of_ok hout] at hrun
    obtain ⟨hcov, h₁⟩ := h.createBurnOutput hsnd hout
    have hbal : debit L.balance snd n snd + n = L.balance snd := by
      rw [debit_self]
      exact Nat.sub_add_cancel hcov
    have hothers : ∀ X, X ≠ snd → debit L.balance snd n X = L.balance X := fun X hX => debit_of_ne _ _ hX
    cases r with
    | error e =>
      have h' := h₁.synced (consumeAvailable_error hrun)
      refine ⟨h.burnPaid h' hsnd hbal hothers (Nat.le_refl _) ?_, _, h'⟩
      show L.pending + n + L.supply = L.pending + L.supply + n
      omega
    | ok u =>
      obtain ⟨hm, h'⟩ := h₁.consumeIssuer hrun
      generalize amountOf (s₁.state.taken s') = m at hm h'
      have hm' : m ≤ L.pending + n := hm
      have hsupply : L.pending + n ≤ L.supply := h₁.balanced.pending_le
      refine ⟨h.burnPaid h' hsnd hbal hothers (Nat.sub_le _ _) ?_, _, h'⟩
      show L.pending + n - m + L.supply = L.pending + (L.supply - m) + n
      omega

/-- Any number of attempts, by induction: each pays for itself. -/
theorem Clears.attempts {s s' : Chain} {attempts : List Bool} (h : Clears P B s L) (hsnd : snd ∈ B.wallets)
    (hrun : Run (burnAttempts P me B snd n) s attempts s') : BurnPaid B snd (attempts.count true * n) s s' := by
  induction hrun generalizing L with
  | nil s => exact ⟨by simp, fun _ _ _ => rfl, Nat.le_refl _, by simp⟩
  | @cons s s₁ s₂ accepted rest hstep _ ih =>
    obtain ⟨hpaid, L₁, h₁⟩ := h.attempt hsnd hstep
    have hrest := ih h₁
    have hcount : (accepted :: rest).count true * n = (if accepted then n else 0) + rest.count true * n := by
      cases accepted with
      | false => simp
      | true => simp [Nat.add_mul, Nat.add_comm]
    rw [hcount]
    exact hpaid.trans hrest

end Attempts

/-! ## A burn that fails once -/

namespace LeftoverBurn

/-- Alice and the issuer. -/
def bank : Bank := ⟨issuer, {alice}, issuer_isFaucet, by decide⟩

/-- Nothing is included, and the first sync of a burn fails. -/
def failing : Env := ⟨fun k => k == 3, fun _ => none⟩

/-- After the mint, her consumption, and her burn of 50 that failed. -/
def failed : Chain :=
  (Op.run ((TokenCall.burn alice issuer 50).op (chainClient .protocol 0 failing)) ⟨funded, 0⟩).2.state

end LeftoverBurn

open LeftoverBurn

end BraleMiden
