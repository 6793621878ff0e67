import BraleMiden.Network.Ownership

/-!
# Paying once

A mint, a transfer and a burn each debit one account: an issuer issues, a wallet pays. Whatever the other clients do
meanwhile with accounts of their own, an operation that ends well has debited its payer once and exactly; one that fails
has not debited it at all, unless it is a burn whose first step was accepted.

* `Debited.of_output`: one accepted output is one debit;
* `Untouched.debited`, `Debited.untouched`: what the others do before and after makes no difference to the payer;
* `pays_once`.
-/

namespace BraleMiden

open Effects Systems Accounting Network Chain

/-- The payer, the issuer of the token, and the amount. -/
def TokenCall.debit : TokenCall → Option (AccountId × AccountId × ℕ)
  | .mint i _ n => some (i, i, n)
  | .transfer snd _ i n => some (snd, i, n)
  | .burn snd i n => some (snd, i, n)
  | .consume _ => none

/-- The payer `x` has `n` tokens of `f` less, or has issued `n` more if it is an issuer. Nothing else of it is
touched. -/
structure Debited (x f : AccountId) (n : ℕ) (w w' : Network) : Prop where
  vault : if x.isFaucet then w'.chain.vault x = w.chain.vault x
    else w'.chain.vault x + Pi.single f n = w.chain.vault x
  issuance : w'.chain.issuance x = w.chain.issuance x + if x.isFaucet then n else 0
  waiting : ∀ m ∈ w.chain.notes.unconsumed, m.OnlyFor x → m ∈ w'.chain.notes.unconsumed

section Payments

variable {P : Params} {d : ClientId} {env : Env} {others : ℕ → Network → Network} {u v w w' : Network}
  {x f : AccountId} {n : ℕ} {m : Note} {call : TokenCall} {s s₁ s' : Session Network}

theorem Untouched.debited (h : Untouched x u v) (hp : Debited x f n v w) : Debited x f n u w where
  vault := by
    rw [← h.vault]
    exact hp.vault
  issuance := by
    rw [← h.issuance]
    exact hp.issuance
  waiting m hm ht := hp.waiting m (h.waiting m hm ht) ht

theorem Debited.untouched (hp : Debited x f n u v) (h : Untouched x v w) : Debited x f n u w where
  vault := by
    rw [h.vault]
    exact hp.vault
  issuance := by
    rw [h.issuance]
    exact hp.issuance
  waiting m hm ht := h.waiting m (hp.waiting m hm ht) ht

/-- An output of one note debits the account once. -/
theorem Debited.of_output (h : w.submit P d x (.ownOutputNotes [m]) = .ok w') (hm : m.asset = ⟨f, n⟩) :
    Debited x f n w w' := by
  obtain ⟨hout, -⟩ := submit_output_ok h
  have hcan := hout.2.1
  have hmoved := hout.moved
  unfold CanOutput at hcan
  refine ⟨?_, ?_, ?_⟩
  · rw [hmoved.vault]
    cases hx : x.isFaucet with
    | true => rfl
    | false =>
      -- the vault covers the note
      have hwallet : ¬ x.isFaucet = true := by simp [hx]
      rw [if_neg hwallet, hm] at hcan
      have hvalue : m.value = Pi.single f n := by rw [Note.value, hm]
      simp only [Bool.false_eq_true, ↓reduceIte, debit_self, hvalue]
      funext y
      refine Nat.sub_add_cancel ?_
      rw [Pi.single_apply]
      split
      · rename_i hy
        rw [hy]
        exact hcan
      · exact Nat.zero_le _
  · rw [hmoved.issuance, hm]
    split
    · exact credit_self _ _ _
    · rfl
  · intro k hk _
    rw [hmoved.unconsumed]
    exact List.mem_append_left _ hk

/-! ## Among others -/

/-- A refused submission, and building, do nothing but let the others act. -/
theorem busyClient_submitFailsKeep {ok : NetAction → Prop} (ho : MeanwhileOnly P ok others) :
    (busyClient P d env others).SubmitFailsKeep (OnState (Leads ((netActions P).only ok))) where
  toBuildKeeps := busyClient_buildKeeps ho
  submitNewTransaction a req s s' e h := by
    rw [busyClient, Client.interleaved_submitNewTransaction, Op.run_after, netClient_submitNewTransaction] at h
    show Leads ((netActions P).only ok) s.state s'.state
    rw [Env.run_call_error h]
    exact ho.meanwhile s

/-- The output of the payer is accepted when the others have acted. -/
theorem debited_of_submit (ho : MeanwhileOnly P (NotBy x) others)
    (hl : Leads ((netActions P).only (NotBy x)) s.state s₁.state) (hm : m.asset = ⟨f, n⟩)
    (h : Op.run ((busyClient P d env others).submitNewTransaction x (.ownOutputNotes [m])) s₁ = (.ok (), s')) :
    Debited x f n s.state s'.state := by
  have hothers : Leads ((netActions P).only (NotBy x)) s.state (others s₁.calls s₁.state) :=
    trans_of (Leads ((netActions P).only (NotBy x))) hl (ho s₁.calls s₁.state)
  exact (untouched_leads hothers).debited (Debited.of_output (busyClient_submit h) hm)

/-- The first step of a burn, when it ends well. -/
theorem createBurnOutput_debited (ho : MeanwhileOnly P (NotBy x) others)
    (h : Op.run (createBurnOutput (busyClient P d env others) x f n) s = (.ok (), s')) :
    Debited x f n s.state s'.state := by
  have hb : (busyClient P d env others).BuildKeeps (OnState (Leads ((netActions P).only (NotBy x)))) :=
    busyClient_buildKeeps ho
  obtain ⟨asset, note, s₁, req, s₂, hasset, hnote, hbuild, hsub⟩ := createBurnOutput_ok.1 h
  obtain ⟨-, -, rfl⟩ := FungibleAsset.new_ok.1 hasset
  have h₁ := (hb.createBurnNote _ _ _).of_run hnote
  have h₂ := (hb.buildOwnOutputNotes _).of_run hbuild
  obtain rfl := busyClient_createBurnNote hnote
  obtain rfl := busyClient_buildOwnOutputNotes hbuild
  exact debited_of_submit ho (trans_of (Leads ((netActions P).only (NotBy x))) h₁ h₂) rfl hsub

/-- The loop of the issuer does not touch the payer. -/
theorem consumeAvailable_untouched {t : ConsumeTexts} {a : AccountId} {r : Except Error Unit}
    (ho : MeanwhileOnly P (NotBy x) others) (ha : a ≠ x)
    (h : Op.run (consumeAvailable (busyClient P d env others) t a) s = (r, s')) : Untouched x s.state s'.state := by
  have hkeeps : Keeps (OnState (Leads ((netActions P).only (NotBy x))))
      (consumeAvailable (busyClient P d env others) t a) := by
    refine consumeAvailable_keeps_of_submits (busyClient_pollKeeps ho trivial) (busyClient_buildKeeps ho) t a ?_
    intro notes req u u' _
    exact busyClient_submit_keeps ho ha
  exact untouched_leads (hkeeps.of_run h)

/-- A mint, transfer or burn that ends well. -/
theorem debited_of_ok (hd : call.debit = some (x, f, n)) (hburn : ∀ i k, call ≠ .burn i i k)
    (ho : MeanwhileOnly P (NotBy x) others) (h : Op.run (call.op (busyClient P d env others)) s = (.ok (), s')) :
    Debited x f n s.state s'.state := by
  have hb : (busyClient P d env others).BuildKeeps (OnState (Leads ((netActions P).only (NotBy x)))) :=
    busyClient_buildKeeps ho
  cases call with
  | mint i t k =>
    cases hd
    obtain ⟨asset, req, s₁, hasset, hbuild, hsub⟩ := mintTokens_ok.1 h
    obtain ⟨-, -, rfl⟩ := FungibleAsset.new_ok.1 hasset
    have h₁ := (hb.buildMintFungibleAsset _ _ _).of_run hbuild
    obtain rfl := busyClient_buildMintFungibleAsset hbuild
    exact debited_of_submit ho h₁ rfl hsub
  | transfer snd rcp i k =>
    cases hd
    obtain ⟨asset, req, s₁, hasset, hbuild, hsub⟩ := transferTokens_ok.1 h
    obtain ⟨-, -, rfl⟩ := FungibleAsset.new_ok.1 hasset
    have h₁ := (hb.buildPayToId _ _).of_run hbuild
    obtain rfl := busyClient_buildPayToId hbuild
    exact debited_of_submit ho h₁ rfl hsub
  | consume a => cases hd
  | burn snd i k =>
    cases hd
    obtain ⟨s₁, hfirst, hsecond⟩ := burnTokens_ok.1 h
    have hne : f ≠ x := by
      rintro rfl
      exact hburn f n rfl
    exact (createBurnOutput_debited ho hfirst).untouched (consumeAvailable_untouched ho hne hsecond)

/-- One that fails. -/
theorem untouched_of_error {e : Error} (hd : call.debit = some (x, f, n)) (hburn : ∀ i k, call ≠ .burn i i k)
    (ho : MeanwhileOnly P (NotBy x) others) (h : Op.run (call.op (busyClient P d env others)) s = (.error e, s')) :
    Untouched x s.state s'.state ∨ call = .burn x f n ∧ Debited x f n s.state s'.state ∧
      ∃ s₁, Op.run (createBurnOutput (busyClient P d env others) x f n) s = (.ok (), s₁) := by
  have hfails : (busyClient P d env others).SubmitFailsKeep (OnState (Leads ((netActions P).only (NotBy x)))) :=
    busyClient_submitFailsKeep ho
  cases call with
  | mint i t k =>
    cases hd
    exact .inl (untouched_leads (mintTokens_keepsOnError hfails _ _ _ _ _ _ h))
  | transfer snd rcp i k =>
    cases hd
    exact .inl (untouched_leads (transferTokens_keepsOnError hfails _ _ _ _ _ _ _ h))
  | consume a => cases hd
  | burn snd i k =>
    cases hd
    rcases burnTokens_error.1 h with hfirst | ⟨s₁, hfirst, hsecond⟩
    · exact .inl (untouched_leads (createBurnOutput_keepsOnError hfails _ _ _ _ _ _ hfirst))
    · have hne : f ≠ x := by
        rintro rfl
        exact hburn f n rfl
      have hdebited := (createBurnOutput_debited ho hfirst).untouched (consumeAvailable_untouched ho hne hsecond)
      exact .inr ⟨rfl, hdebited, s₁, hfirst⟩

/-- **Paying once.** A mint, transfer or burn (of tokens that are not the issuer's own) runs at any client while the
others make any transactions of other accounts. If it ends well, its payer has paid the amount once. If it fails,
nothing of the payer was touched, unless it is a burn whose first step was accepted: then the payer has paid once as
well. -/
theorem pays_once {r : Except Error Unit} (hd : call.debit = some (x, f, n)) (hburn : ∀ i k, call ≠ .burn i i k)
    (ho : MeanwhileOnly P (NotBy x) others) (hrun : Op.run (call.op (busyClient P d env others)) s = (r, s')) :
    (r = .ok () → Debited x f n s.state s'.state) ∧
      ∀ e, r = .error e → Untouched x s.state s'.state ∨ call = .burn x f n ∧ Debited x f n s.state s'.state ∧
        ∃ s₁, Op.run (createBurnOutput (busyClient P d env others) x f n) s = (.ok (), s₁) := by
  constructor
  · rintro rfl
    exact debited_of_ok hd hburn ho hrun
  · rintro e rfl
    exact untouched_of_error hd hburn ho hrun

end Payments

open TwoClients

/-- The issuer has issued Bob's 100 tokens once. -/
theorem issuer_debited : Debited issuer issuer 100 apart (paying bob).2.state ∧
    (paying bob).2.state.chain.issuance issuer = 100 := by
  have hrun : Op.run ((TokenCall.mint issuer bob 100).op (busyClient .protocol 0 (.steady none) blocks)) ⟨apart, 0⟩ =
      (.ok (), (paying bob).2) := rfl
  have hothers : MeanwhileOnly .protocol (NotBy issuer) blocks := only_blocks .protocol fun _ => trivial
  have hburn : ∀ i k, TokenCall.mint issuer bob 100 ≠ .burn i i k := fun _ _ h => by cases h
  have hdebited : Debited issuer issuer 100 apart (paying bob).2.state := (pays_once rfl hburn hothers hrun).1 rfl
  exact ⟨hdebited, hdebited.issuance⟩

end BraleMiden
