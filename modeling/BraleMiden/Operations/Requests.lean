import BraleMiden.Operations.Tokens

/-!
# What the operations submit

An operation submits only requests that its own calls have built from its arguments, and only for the accounts it is
given (`TokenCall.Submits`). So it keeps what the other calls and just these submissions keep:

* `TokenCall.op_keeps_of_submits`: the rule, for runs that end in any way. `TokenCall.op_keeps` asks the same of every
  submission;
* `TokenCall.Submits.authorisers`: the accounts.
-/

namespace BraleMiden

open Effects

variable {σ : Type}

/-- The operation can submit the request for the account: it is built by its calls from its arguments. -/
def TokenCall.Submits (c : Client σ) : TokenCall → AccountId → TransactionRequest → Prop
  | .mint i t n, a, req => a = i ∧ ∃ asset s s', c.fungibleAssetNew i n = .ok asset ∧
      Op.run (c.buildMintFungibleAsset asset t .priv) s = (.ok req, s')
  | .transfer snd rcp i n, a, req => a = snd ∧ ∃ asset s s', c.fungibleAssetNew i n = .ok asset ∧
      Op.run (c.buildPayToId ⟨asset, snd, rcp⟩ .priv) s = (.ok req, s')
  | .consume b, a, req => a = b ∧ ∃ notes s s', Op.run (c.buildConsumeNotes notes) s = (.ok req, s')
  | .burn snd i n, a, req =>
    (a = snd ∧ ∃ asset note s s₁ t t', c.fungibleAssetNew i n = .ok asset ∧
      Op.run (c.createBurnNote snd i asset) s = (.ok note, s₁) ∧
      Op.run (c.buildOwnOutputNotes [note]) t = (.ok req, t')) ∨
    a = i ∧ ∃ notes s s', Op.run (c.buildConsumeNotes notes) s = (.ok req, s')

section Rule

variable {c : Client σ} {R : σ → σ → Prop} [IsPreorder σ R]

/-- An operation submits for its own accounts only. -/
theorem TokenCall.Submits.authorisers {call : TokenCall} {a : AccountId} {req : TransactionRequest}
    (h : call.Submits c a req) : a ∈ call.authorisers := by
  cases call with
  | mint i t n =>
    obtain ⟨rfl, -⟩ := h
    exact List.mem_singleton_self a
  | transfer snd rcp i n =>
    obtain ⟨rfl, -⟩ := h
    exact List.mem_singleton_self a
  | consume b =>
    obtain ⟨rfl, -⟩ := h
    exact List.mem_singleton_self a
  | burn snd i n =>
    rcases h with ⟨rfl, -⟩ | ⟨rfl, -⟩
    · exact List.mem_cons_self
    · exact List.mem_cons_of_mem _ (List.mem_singleton_self a)

/-- The shared loop submits a consumption of whatever was listed. -/
theorem consumeAvailable_keeps_of_submits (hp : c.PollKeeps R) (hb : c.BuildKeeps R) (t : ConsumeTexts)
    (a : AccountId) (hs : ∀ notes req s s', Op.run (c.buildConsumeNotes notes) s = (.ok req, s') →
      Keeps R (c.submitNewTransaction a req)) : Keeps R (consumeAvailable c t a) := by
  refine .bind (pollLoop_keeps hp t a) fun _ => .bind ((hp.getConsumableNotes a).mapError _) fun l => ?_
  refine .bind_of_run ((hb.buildConsumeNotes _).mapError _) fun req s s' hbuild => ?_
  exact (hs _ req s s' (run_context_ok.1 hbuild)).mapError _

/-- The first step of a burn submits an output of the note it has made. -/
theorem createBurnOutput_keeps_of_submits (hb : c.BuildKeeps R) {snd i : AccountId} {n : ℕ}
    (hs : ∀ req, (TokenCall.burn snd i n).Submits c snd req → Keeps R (c.submitNewTransaction snd req)) :
    Keeps R (createBurnOutput c snd i n) := by
  refine .bind_of_run ((Keeps.ofExcept _).mapError _) fun asset u u' hasset => ?_
  refine .bind_of_run ((hb.createBurnNote _ _ _).mapError _) fun note s s₁ hnote => ?_
  refine .bind_of_run ((hb.buildOwnOutputNotes _).mapError _) fun req t t' hbuild => ?_
  refine (hs req (.inl ⟨rfl, asset, note, s, s₁, t, t', ?_, ?_, ?_⟩)).mapError _
  · exact (run_context_lift_ok.1 hasset).1
  · exact run_context_ok.1 hnote
  · exact run_context_ok.1 hbuild

/-- **Guarantee rule**: what polling and building keep, and the submissions that the operation can make, the operation
keeps, however it ends. -/
theorem TokenCall.op_keeps_of_submits (hp : c.PollKeeps R) (hb : c.BuildKeeps R) {call : TokenCall}
    (hs : ∀ a req, call.Submits c a req → Keeps R (c.submitNewTransaction a req)) : Keeps R (call.op c) := by
  cases call with
  | mint i t n =>
    refine .bind_of_run ((Keeps.ofExcept _).mapError _) fun asset u u' hasset => ?_
    refine .bind_of_run ((hb.buildMintFungibleAsset _ _ _).mapError _) fun req s s' hbuild => ?_
    refine (hs i req ⟨rfl, asset, s, s', ?_, run_context_ok.1 hbuild⟩).mapError _
    exact (run_context_lift_ok.1 hasset).1
  | transfer snd rcp i n =>
    refine .bind_of_run ((Keeps.ofExcept _).mapError _) fun asset u u' hasset => ?_
    refine .bind_of_run ((hb.buildPayToId _ _).mapError _) fun req s s' hbuild => ?_
    refine (hs snd req ⟨rfl, asset, s, s', ?_, run_context_ok.1 hbuild⟩).mapError _
    exact (run_context_lift_ok.1 hasset).1
  | consume b =>
    exact consumeAvailable_keeps_of_submits hp hb _ b fun notes req s s' hbuild =>
      hs b req ⟨rfl, notes, s, s', hbuild⟩
  | burn snd i n =>
    refine .bind (createBurnOutput_keeps_of_submits hb fun req => hs snd req) fun _ => ?_
    exact consumeAvailable_keeps_of_submits hp hb _ i fun notes req s s' hbuild =>
      hs i req (.inr ⟨rfl, notes, s, s', hbuild⟩)

end Rule

end BraleMiden
