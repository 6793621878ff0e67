import BraleMiden.Chain.Books
import BraleMiden.Network.Interleaving
import BraleMiden.Operations.Requests

/-!
# Whose tokens an operation moves

The actions of an operation are syncs of its client and the submissions of `TokenCall.Submits`. So an operation among
others keeps what their actions and just these submissions keep (`op_keeps_only`).

* `call_confined`: an operation touches nothing of an account that it does not act for, neither what the account has nor
  what waits for it;
* `reads_audited`: what `read_balance` and `read_total_supply` answer can be recomputed from the notes, in every network
  that operations lead to.
-/

namespace BraleMiden

open Effects Systems Network Chain

/-- The notes that the action outputs have its account as their sender. -/
def StampedAction : NetAction → Prop
  | .submit _ a req => Stamped a req
  | _ => True

/-- The chain leaves `x` intact. -/
abbrev Untouched (x : AccountId) (w w' : Network) : Prop := Intact x w.chain w'.chain

section Ownership

variable {P : Params} {ok : NetAction → Prop} {d : ClientId} {env : Env} {others : ℕ → Network → Network}
  {w w' : Network} {act : NetAction} {a f x : AccountId} {call : TokenCall} {s s' : Session Network}

/-! ## The actions of an operation -/

/-- **An operation among others** is a sequence of actions of one kind, if the syncs of its client and its submissions
are of this kind, and all that the others do. -/
theorem op_keeps_only (ho : MeanwhileOnly P ok others) (hsync : ok (.sync d))
    (hsubmit : ∀ a req, call.Submits (busyClient P d env others) a req → ok (.submit d a req)) :
    Keeps (OnState (Leads ((netActions P).only ok))) (call.op (busyClient P d env others)) :=
  TokenCall.op_keeps_of_submits (busyClient_pollKeeps ho hsync) (busyClient_buildKeeps ho) fun a req hreq =>
    busyClient_submit_keeps ho (hsubmit a req hreq)

/-- The notes that an operation outputs are stamped: their sender is the account it submits for. -/
theorem submits_stamped {req : TransactionRequest} (h : call.Submits (busyClient P d env others) a req) :
    Stamped a req := by
  have hconsume : ∀ {notes s s'}, Op.run ((busyClient P d env others).buildConsumeNotes notes) s = (.ok req, s') →
      Stamped a req := by
    intro notes s s' hbuild
    obtain rfl := busyClient_buildConsumeNotes hbuild
    trivial
  cases call with
  | mint i t n =>
    obtain ⟨rfl, asset, s, s', hasset, hbuild⟩ := h
    obtain ⟨-, -, rfl⟩ := FungibleAsset.new_ok.1 hasset
    obtain rfl := busyClient_buildMintFungibleAsset hbuild
    exact fun n hn => congrArg Note.sender (List.mem_singleton.1 hn)
  | transfer snd rcp i n =>
    obtain ⟨rfl, asset, s, s', hasset, hbuild⟩ := h
    obtain rfl := busyClient_buildPayToId hbuild
    exact fun n hn => congrArg Note.sender (List.mem_singleton.1 hn)
  | consume b =>
    obtain ⟨rfl, notes, s, s', hbuild⟩ := h
    exact hconsume hbuild
  | burn snd i n =>
    rcases h with ⟨rfl, asset, note, s, s₁, t, t', -, hnote, hbuild⟩ | ⟨rfl, notes, s, s', hbuild⟩
    · obtain rfl := busyClient_createBurnNote hnote
      obtain rfl := busyClient_buildOwnOutputNotes hbuild
      exact fun n hn => congrArg Note.sender (List.mem_singleton.1 hn)
    · exact hconsume hbuild

/-! ## What is not touched -/

/-- Nothing but its own transactions touches an account. -/
theorem untouched_step (h : actionStep P w act w') (hne : NotBy x act) : Untouched x w w' := by
  cases act with
  | sync d =>
    cases h
    exact refl (r := Intact x) w.chain
  | deliver c d ids =>
    obtain ⟨-, rfl⟩ := h
    exact refl (r := Intact x) w.chain
  | track d a =>
    cases h
    exact refl (r := Intact x) w.chain
  | block incl =>
    cases h
    exact produceBlock_intact x incl w.chain
  | submit d a req => exact submit_intact (Ne.symm hne) (submit_cases h).2.1

theorem untouched_leads (h : Leads ((netActions P).only (NotBy x)) w w') : Untouched x w w' := by
  refine h.keeps (P := fun v => Untouched x w v) ?_ (refl w)
  intro v act v' hv hs
  obtain ⟨hby, hstep⟩ := hs
  exact trans_of (Untouched x) hv (untouched_step hstep hby)

/-- **Operations are confined to their accounts.** An operation, however it ends and whatever the others do meanwhile,
as long as they make no transaction of `x`, leaves an account `x` that it does not act for with what it had, issued what
it had issued, and with every unconsumed note that only `x` can consume. -/
theorem call_confined (ho : MeanwhileOnly P (NotBy x) others) (hx : x ∉ call.authorisers) (s : Session Network) :
    Untouched x s.state (Op.run (call.op (busyClient P d env others)) s).2.state := by
  have hkeeps : Keeps (OnState (Leads ((netActions P).only (NotBy x)))) (call.op (busyClient P d env others)) := by
    refine op_keeps_only ho trivial ?_
    intro a req hreq
    show a ≠ x
    rintro rfl
    exact hx hreq.authorisers
  exact untouched_leads (hkeeps s)

/-! ## What the notes say -/

/-- Stamped actions keep the books. -/
theorem booked_step (h : Booked w.chain) (hst : StampedAction act) (hs : actionStep P w act w') : Booked w'.chain := by
  cases act with
  | sync d =>
    cases hs
    exact h
  | deliver c d ids =>
    obtain ⟨-, rfl⟩ := hs
    exact h
  | track d a =>
    cases hs
    exact h
  | block incl =>
    cases hs
    exact h.synced (synced_sync w.chain (some incl))
  | submit d a req => exact h.submit hst (submit_cases hs).2.1

theorem booked_of_reachable (h : Reachable ((netActions P).only StampedAction) w) : Booked w.chain := by
  refine h.invariant (P := fun v => Booked v.chain) ?_ ?_
  · intro v hinit
    exact (NetFresh.chain hinit).booked
  · intro v act v' hv hs
    obtain ⟨hst, hstep⟩ := hs
    exact booked_step hv hst hstep

/-- A balance that is read by a client that is up to date is what the account has. -/
theorem readBalance_net {b : ℕ} (hu : UpToDate d a s.state)
    (h : Op.run (readBalance (netClient P d env) a f) s = (.ok b, s')) :
    b = s.state.chain.vault a f := by
  obtain ⟨acc, s₁, hacc, hget⟩ := Op.run_bind_ok.1 h
  have hread := getAccount_of_fullAccount hacc
  rw [netClient_getAccount] at hread
  obtain ⟨-, hrecord, -⟩ := Env.run_read_ok.1 hread
  rw [hu.account_eq] at hrecord
  obtain ⟨hbalance, -⟩ := run_context_lift_ok.1 hget
  by_cases ha : a ∈ (s.state.store d).tracked
  · rw [if_pos ha] at hrecord
    cases hrecord
    simp only [Chain.account] at hbalance
    split at hbalance
    · cases hbalance
      rfl
    · cases hbalance
  · rw [if_neg ha] at hrecord
    cases hrecord

/-- A supply that is read is what the first element says of the issuance: it fits the field element. -/
theorem readTotalSupply_net {t : UInt64} (hs : Sound P s.state.chain) (hu : UpToDate d f s.state)
    (h : Op.run (readTotalSupply (netClient P d env) f) s = (.ok t, s')) :
    f.isFaucet = true ∧ t.toNat = P.supplyRead (s.state.chain.issuance f) := by
  obtain ⟨acc, s₁, hacc, hrest⟩ := Op.run_bind_ok.1 h
  obtain ⟨word, s₂, hget, hret⟩ := Op.run_bind_ok.1 hrest
  have hread := getAccount_of_fullAccount hacc
  rw [netClient_getAccount] at hread
  obtain ⟨-, hrecord, -⟩ := Env.run_read_ok.1 hread
  rw [hu.account_eq] at hrecord
  obtain ⟨hword, -⟩ := run_context_lift_ok.1 hget
  by_cases ha : f ∈ (s.state.store d).tracked
  · rw [if_pos ha] at hrecord
    cases hrecord
    simp only [Chain.account] at hword
    split at hword
    · rename_i hf
      cases hword
      cases hret
      exact ⟨hf, P.sysdata_first ((hs.issuance_le f).trans (hs.maxSupply_le f))⟩
    · cases hword
  · rw [if_neg ha] at hrecord
    cases hrecord

/-- **Audit.** After any operations of any clients, among others whose notes are stamped, and however they end: a
balance that a client reads of a wallet that only it tracks, with all that the wallet has sent, is all that the wallet
has received; and a supply that a client reads of an issuer that only it tracks is what the first element says of all
that the issuer has issued less all that it has taken back. -/
theorem reads_audited (call : TokenCall) (d : ClientId) (env : Env) (k : ℕ)
    (hw : Reachable ((netActions P).only StampedAction) w) (ho : MeanwhileOnly P StampedAction others) :
    let w' := (Op.run (call.op (busyClient P d env others)) ⟨w, k⟩).2.state
    Reachable ((netActions P).only StampedAction) w' ∧
      (∀ c env j a f b s, a.isFaucet = false → w'.SoleTracker c a →
        Op.run (readBalance (netClient P c env) a f) ⟨w', j⟩ = (.ok b, s) →
          b + w'.chain.sentBy a f = w'.chain.receivedBy a f) ∧
      ∀ c env j f t s, w'.SoleTracker c f →
        Op.run (readTotalSupply (netClient P c env) f) ⟨w', j⟩ = (.ok t, s) →
          ∃ issued, issued + w'.chain.receivedBy f f = w'.chain.sentBy f f ∧ t.toNat = P.supplyRead issued := by
  intro w'
  have hkeeps : Keeps (OnState (Leads ((netActions P).only StampedAction))) (call.op (busyClient P d env others)) :=
    op_keeps_only ho trivial fun a req h => submits_stamped h
  have hw' : Reachable ((netActions P).only StampedAction) w' := hw.leads (hkeeps ⟨w, k⟩)
  have hbooks := booked_of_reachable hw'
  refine ⟨hw', ?_, ?_⟩
  · intro c env j a f b s ha hsole hread
    have hu : UpToDate c a (⟨w', j⟩ : Session Network).state := upToDate_of_reachable hw'.of_only hsole
    rw [readBalance_net hu hread]
    exact congrFun (hbooks.wallet a ha) f
  · intro c env j f t s hsole hread
    have hu : UpToDate c f (⟨w', j⟩ : Session Network).state := upToDate_of_reachable hw'.of_only hsole
    have hsound : Sound P (⟨w', j⟩ : Session Network).state.chain := (orderly_of_reachable hw'.of_only).sound
    obtain ⟨hf, hsupply⟩ := readTotalSupply_net hsound hu hread
    have hbook := congrFun (hbooks.faucet f hf) f
    rw [Pi.add_apply, Pi.single_eq_same] at hbook
    exact ⟨_, hbook, hsupply⟩

end Ownership

/-! ## Alice's mint -/

namespace TwoClients

theorem stamped_minted (t : AccountId) (noteType : NoteType) :
    Reachable ((netActions .protocol).only StampedAction) (minted t noteType) := by
  have hsender : StampedAction (.submit 0 issuer
      (.ownOutputNotes [apart.chain.payNote issuer t ⟨issuer, 100⟩ noteType])) :=
    fun n hn => congrArg Note.sender (List.mem_singleton.1 hn)
  exact ⟨apart, [.submit 0 issuer (.ownOutputNotes [apart.chain.payNote issuer t ⟨issuer, 100⟩ noteType]),
    .block fun _ => true], netFresh_apart, .cons ⟨hsender, rfl⟩ (.cons ⟨trivial, rfl⟩ (.nil _))⟩

/-- No other client tracks the accounts of client 0. -/
theorem sole_collected {a : AccountId} (ha : owner a = 0) : (collected alice .priv).2.state.SoleTracker 0 a := by
  intro d hd
  cases d with
  | zero => rfl
  | succ d =>
    have hapart : a ∈ (apart.store (d + 1)).tracked := hd
    obtain ⟨-, howner⟩ := Finset.mem_filter.1 hapart
    exact howner.symm.trans ha

/-- With Alice's note waiting, client 0 mints to Bob. -/
def mintingToBob : Except Error Unit × Session Network :=
  Op.run ((TokenCall.mint issuer bob 100).op (busyClient .protocol 0 (.steady none) blocks)) ⟨minted alice .priv, 0⟩

end TwoClients

open TwoClients

/-- Alice's note still waits for her. -/
theorem alice_untouched : Untouched alice (minted alice .priv) mintingToBob.2.state ∧
    mintNote alice ∈ mintingToBob.2.state.chain.notes.unconsumed := by
  have hsame : Untouched alice (minted alice .priv) mintingToBob.2.state :=
    call_confined (only_blocks .protocol fun _ => trivial) (by decide) ⟨minted alice .priv, 0⟩
  exact ⟨hsame, hsame.waiting _ (by decide) (Note.onlyFor_target rfl)⟩

/-- When she has consumed it, her balance of 100 is what the notes say. The supply is read as 0: the first element says
so of all that is issued. -/
theorem alice_audited :
    100 + (collected alice .priv).2.state.chain.sentBy alice issuer =
        (collected alice .priv).2.state.chain.receivedBy alice issuer ∧
      ∃ issued, issued + (collected alice .priv).2.state.chain.receivedBy issuer issuer =
          (collected alice .priv).2.state.chain.sentBy issuer issuer ∧
        (0 : UInt64).toNat = Params.protocol.supplyRead issued := by
  have haudit := reads_audited (.consume alice) 0 (.steady none) 0 (stamped_minted alice .priv)
    (only_blocks .protocol fun _ => trivial)
  exact ⟨haudit.2.1 0 (.steady none) 0 alice issuer 100 _ rfl (sole_collected rfl) rfl,
    haudit.2.2 0 (.steady none) 0 issuer 0 _ (sole_collected rfl) rfl⟩

end BraleMiden
