import BraleMiden.Network.Interleaving
import BraleMiden.Operations.Lockstep

/-!
# A client on its own

A client that has all accounts of a network, and is the only one to act, has the details of every note and has seen
every block. So for it the network is nothing but the chain: every sequence of operations ends as at `chainClient`, call
by call, and leaves the same chain (`alone_runs`).
-/

namespace BraleMiden

open Effects Systems Network Chain

/-- Client `d` of the network when nobody else acts: a sync sees the block that the environment gives it. -/
@[simps] def aloneClient (P : Params) (d : ClientId) (env : Env) : Client (Session Network) where
  fungibleAssetNew := (netClient P d env).fungibleAssetNew
  createBurnNote := (netClient P d env).createBurnNote
  buildMintFungibleAsset := (netClient P d env).buildMintFungibleAsset
  buildPayToId := (netClient P d env).buildPayToId
  buildOwnOutputNotes := (netClient P d env).buildOwnOutputNotes
  buildConsumeNotes := (netClient P d env).buildConsumeNotes
  syncState := env.call fun k w => .ok ((), { w with chain := w.chain.sync (env.block k) }.sync P d)
  getConsumableNotes := (netClient P d env).getConsumableNotes
  converts := (netClient P d env).converts
  submitNewTransaction := (netClient P d env).submitNewTransaction
  getAccount := (netClient P d env).getAccount

/-- The network is the chain `s`, and client `d` has its accounts `A`, the details of all notes and all blocks. -/
structure Alone (d : ClientId) (A : Finset AccountId) (s : Chain) (w : Network) : Prop where
  chain : w.chain = s
  accounts : s.accounts = A
  tracked : (w.store d).tracked = A
  details : ∀ e ∈ s.notes.entries, e.note.id ∈ (w.store d).details
  synced : ∀ e ∈ s.notes.entries, ∀ b, e.status = .committed b → b ≤ (w.store d).syncedTo
  syncedTo : (w.store d).syncedTo ≤ s.height
  upToDate : ∀ a ∈ A, UpToDate d a w

section Alone

variable {P : Params} {d : ClientId} {A : Finset AccountId} {env : Env} {s s' : Chain} {w w' : Network} {a : AccountId}
  {req : TransactionRequest}

/-- A network that is fresh, where client `d` has all accounts. -/
theorem NetFresh.alone (h : NetFresh P w) (ht : (w.store d).tracked = w.chain.accounts) :
    Alone d w.chain.accounts w.chain w where
  chain := rfl
  accounts := rfl
  tracked := ht
  details e he := by
    rw [h.chain.notes] at he
    cases he
  synced e he := by
    rw [h.chain.notes] at he
    cases he
  syncedTo := h.syncedTo d
  upToDate _ _ := h.upToDate

/-- The client lists what the chain has. -/
theorem Alone.committed (h : Alone d A s w) (ha : a ∈ A) (p : Note → Bool) :
    w.committed d a p = s.notes.committed p := by
  obtain ⟨rfl, -, htracked, hdetails, hsynced, -, -⟩ := h
  rw [Network.committed, htracked, if_pos ha, NoteBook.committed]
  congr 1
  refine List.filter_congr fun e he => ?_
  have hseen : e.status.isCommittedBy (w.store d).syncedTo = e.status.isCommitted := by
    rcases hst : e.status with _ | b | _
    · rfl
    · exact decide_eq_true (hsynced e he b hst)
    · rfl
  rw [hseen, decide_eq_true (hdetails e he), Bool.and_true]

/-- The client has seen the chain as it is, when its store has the notes and a block of the chain. -/
theorem Alone.store_sync (h : Alone d A s w) (hsync : Chain.Synced s s')
    (hentries : ∀ e' ∈ s'.notes.entries, ∃ e ∈ s.notes.entries, e'.note = e.note)
    (hcommitted : ∀ e' ∈ s'.notes.entries, ∀ b, e'.status = .committed b → b ≤ s'.height) :
    Alone d A s' ({ w with chain := s' }.sync P d) := by
  refine ⟨rfl, hsync.accounts.trans h.accounts, sync_tracked.trans h.tracked, ?_, ?_, ?_, ?_⟩
  · intro e' he'
    obtain ⟨e, he, hnote⟩ := hentries e' he'
    rw [hnote]
    exact mem_sync_details.2 (.inl (h.details e he))
  · intro e' he' b hst
    rw [sync_syncedTo, if_pos rfl]
    exact hcommitted e' he' b hst
  · rw [sync_syncedTo, if_pos rfl]
  · intro a ha
    have hseen : UpToDate d a { w with chain := s' } := by
      constructor
      · rw [hsync.vault, ← h.chain]
        exact (h.upToDate a ha).vault
      · rw [hsync.issuance, ← h.chain]
        exact (h.upToDate a ha).issuance
    exact hseen.sync P d

/-- A sync with a block, on both sides. -/
theorem Alone.sync (h : Alone d A s w) (block : Option (NoteId → Bool)) :
    Alone d A (s.sync block) ({ w with chain := w.chain.sync block }.sync P d) := by
  rw [h.chain]
  cases block with
  | none =>
    refine h.store_sync (refl s) (fun e he => ⟨e, he, rfl⟩) ?_
    exact fun e he b hst => (h.synced e he b hst).trans h.syncedTo
  | some incl =>
    refine h.store_sync (synced_sync s (some incl)) ?_ ?_
    · intro e' he'
      obtain ⟨e, he, hnote, -, -⟩ := NoteBook.mem_entries_commit he'
      exact ⟨e, he, hnote⟩
    · intro e' he' b hst
      show b ≤ s.height + 1
      obtain ⟨e, he, -, -, hkept | ⟨-, hnew⟩⟩ := NoteBook.mem_entries_commit he'
      · rw [hkept] at hst
        exact (h.synced e he b hst).trans (h.syncedTo.trans (Nat.le_succ _))
      · rw [hnew] at hst
        cases hst
        exact Nat.le_refl _

/-- The client can submit what the chain accepts. -/
theorem Alone.submit_ok (h : Alone d A s w) (ha : a ∈ A) (hs : s.submit P d a req = .ok s') :
    ∃ w', w.submit P d a req = .ok w' := by
  obtain ⟨rfl, -, htracked, hdetails, -, -, -⟩ := h
  unfold Network.submit
  rw [htracked, if_pos ha]
  cases req with
  | ownOutputNotes ns =>
    simp only [hs]
    exact ⟨_, rfl⟩
  | consumeNotes ns =>
    have hknown : ∀ n ∈ ns, n.id ∈ (w.store d).details := by
      intro n hn
      obtain ⟨-, hconsume⟩ := submit_consume.1 hs
      obtain ⟨⟨-, -, hready, -⟩, -⟩ := consume_ok.1 hconsume
      obtain ⟨-, e, he, rfl, -⟩ := NoteBook.mem_committed.1 (hready n hn).1
      exact hdetails e he
    simp only [hs]
    rw [if_pos hknown]
    exact ⟨_, rfl⟩

/-- A transaction is accepted on both sides or on neither. -/
theorem Alone.submit (h : Alone d A s w) (hs : w.submit P d a req = .ok w') :
    s.submit P d a req = .ok w'.chain ∧ Alone d A w'.chain w' := by
  obtain ⟨rfl, haccounts, htracked, hdetails, hsynced, hheight, hupToDate⟩ := h
  obtain ⟨-, hsubmit, hcases⟩ := submit_cases hs
  refine ⟨hsubmit, ?_⟩
  have hacc : w'.chain.accounts = A := (submit_accounts hsubmit).2.trans haccounts
  have hseen : ∀ x ∈ A, UpToDate d x w' := by
    intro x hx
    have hstep : actionStep P w (.submit d a req) w' := hs
    refine (hupToDate x hx).step ?_ hstep
    rintro d' req' ⟨⟩
    rfl
  rcases hcases with ⟨ns, -, hout⟩ | ⟨ns, -, hcons⟩
  · obtain ⟨htracked', hsyncedTo⟩ := hout.store_eq (c := d)
    refine ⟨rfl, hacc, htracked'.trans htracked, ?_, ?_, ?_, hseen⟩
    · intro e he
      rcases hout.mem.1 he with hold | ⟨n, hn, rfl⟩
      · exact hout.mem_details.2 (.inl (hdetails e hold))
      · exact hout.mem_details.2 (.inr ⟨rfl, n, hn, rfl⟩)
    · intro e he b hst
      rw [hsyncedTo]
      rcases hout.mem.1 he with hold | ⟨n, hn, rfl⟩
      · exact hsynced e hold b hst
      · cases hst
    · rw [hsyncedTo, hout.height]
      exact hheight
  · obtain ⟨hheight', hstore⟩ := hcons.height
    refine ⟨rfl, hacc, by rw [hstore, htracked], ?_, ?_, ?_, hseen⟩
    · intro e he
      obtain ⟨e₀, he₀, rfl⟩ := hcons.mem.1 he
      rw [hstore]
      exact hdetails e₀ he₀
    · intro e he b hst
      obtain ⟨e₀, he₀, rfl⟩ := hcons.mem.1 he
      rw [hstore]
      by_cases hn : e₀.note ∈ ns
      · simp [hn] at hst
      · exact hsynced e₀ he₀ b (by simpa [hn] using hst)
    · rw [hstore, hheight']
      exact hheight

/-! ## The client and the network, step by step -/

/-- The calls of the client and those of `chainClient` are in lockstep, for its accounts. -/
theorem aloneClient_lockstep :
    (chainClient P d env).Lockstep (Alongside (Alone d A)) (· ∈ A) (aloneClient P d env) where
  fungibleAssetNew := rfl
  createBurnNote snd i asset := Env.read_lockstep fun s w h => by rw [h.chain]
  buildMintFungibleAsset asset t n := Env.read_lockstep fun s w h => by rw [h.chain]
  buildPayToId p n := Env.consult_lockstep fun s w h => by rw [h.chain]
  buildOwnOutputNotes ns := Env.read_lockstep fun _ _ _ => rfl
  buildConsumeNotes ns := Env.read_lockstep fun _ _ _ => rfl
  syncState := Env.call_lockstep fun k s w h => .inl ⟨(), _, _, rfl, rfl, h.sync (env.block k)⟩
  getConsumableNotes a ha := Env.read_lockstep fun s w h => by
    rw [Chain.records, Network.records, Network.listed, h.committed ha, h.chain, Chain.listed]
  converts := rfl
  submitNewTransaction a ha req := Env.call_lockstep fun k s w h => by
    cases hw : w.submit P d a req with
    | ok w' =>
      obtain ⟨hs, hnext⟩ := h.submit hw
      rw [hs]
      exact .inl ⟨(), _, _, rfl, rfl, hnext⟩
    | error e' =>
      cases hs : s.submit P d a req with
      | ok s' =>
        obtain ⟨w', hw'⟩ := h.submit_ok ha hs
        rw [hw] at hw'
        cases hw'
      | error e => exact .inr ⟨e, e', rfl, rfl⟩
  getAccount a := Env.read_lockstep fun s w h => by
    rw [h.tracked, h.accounts]
    split
    · rename_i ha
      rw [(h.upToDate a ha).account_eq, h.chain]
    · rfl

/-- Every call of the client is a sequence of actions: its own, and blocks. -/
theorem aloneClient_keeps : (aloneClient P d env).Keeps (OnState (Leads (netActions P))) where
  syncState := Env.call_keeps fun {k w x w'} h => by
    cases h
    have hblock : Leads (netActions P) w { w with chain := w.chain.sync (env.block k) } := by
      cases env.block k with
      | none => exact refl w
      | some incl => exact .step (l := .block incl) rfl
    exact trans_of (Leads (netActions P)) hblock (.step (l := .sync d) rfl)
  getConsumableNotes _ := Env.read_keeps _
  createBurnNote _ _ _ := Env.read_keeps _
  buildMintFungibleAsset _ _ _ := Env.read_keeps _
  buildPayToId _ _ := Env.consult_keeps _
  buildOwnOutputNotes _ := Env.read_keeps _
  buildConsumeNotes _ := Env.read_keeps _
  submitNewTransaction a req := netClient_submit_keeps fun h => .step (l := .submit d a req) h

/-! ## Whole sequences -/

/-- **A client on its own.** Every sequence of operations for accounts of the client, each with any failures and any
blocks, ends at the network as it does at the chain, call by call; it leaves the same chain, and what is read then is
the same. In the network it is a sequence of actions. -/
theorem alone_runs (hw : Alone d A s w) (l : List (Env × TokenCall))
    (hl : ∀ p ∈ l, ∀ a ∈ p.2.authorisers, a ∈ A) :
    let one := performAll (chainClient P d) l s
    let net := performAll (aloneClient P d) l w
    List.Forall₂ EndAlike one.1 net.1 ∧ net.2.chain = one.2 ∧ Leads (netActions P) w net.2 ∧
      ∀ env k a f,
        EndAlike (Op.run (readBalance (chainClient P d env) a f) ⟨one.2, k⟩).1
          (Op.run (readBalance (netClient P d env) a f) ⟨net.2, k⟩).1 ∧
        EndAlike (Op.run (readTotalSupply (chainClient P d env) f) ⟨one.2, k⟩).1
          (Op.run (readTotalSupply (netClient P d env) f) ⟨net.2, k⟩).1 := by
  intro one net
  obtain ⟨hends, hlast⟩ := performAll_lockstep (fun env => aloneClient_lockstep) l hl hw
  refine ⟨hends, hlast.chain, performAll_keeps (fun env => aloneClient_keeps) l w, ?_⟩
  intro env k a f
  have hread : (chainClient P d env).Lockstep (Alongside (Alone d A)) (· ∈ A) (aloneClient P d env) :=
    aloneClient_lockstep
  exact ⟨(readBalance_lockstep hread a f ⟨one.2, k⟩ ⟨net.2, k⟩ ⟨rfl, hlast⟩).1,
    (readTotalSupply_lockstep hread f ⟨one.2, k⟩ ⟨net.2, k⟩ ⟨rfl, hlast⟩).1⟩

end Alone

/-! ## One client -/

namespace TwoClients

/-- Client 0 has all the accounts. -/
def together : Network := { start with store := fun d => ⟨if d = 0 then start.chain.accounts else ∅, ∅, 0⟩ }

theorem netFresh_together : NetFresh .protocol together where
  chain := ⟨rfl, rfl, rfl, fun _ => by show 1000 ≤ 2 ^ 63 - 2 ^ 31; omega⟩
  details _ := rfl
  syncedTo _ := Nat.le_refl _
  seen _ _ := rfl

/-- A mint to Alice, which she consumes, and a burn that fails at its first sync. -/
def burnAfterMint : List (Env × TokenCall) :=
  [(.steady none, .mint issuer alice 100), (.steady (some fun _ => true), .consume alice),
    (⟨fun k => k == 3, fun _ => none⟩, .burn alice issuer 30)]

end TwoClients

open TwoClients

/-- In the network, too, only the burn fails, and Alice has 70 left. -/
theorem together_burns :
    (∃ e, (performAll (aloneClient .protocol 0) burnAfterMint together).1 = [.ok (), .ok (), .error e]) ∧
      (performAll (aloneClient .protocol 0) burnAfterMint together).2.chain.vault alice issuer = 70 := by
  have halone : Alone 0 together.chain.accounts together.chain together := netFresh_together.alone rfl
  obtain ⟨hends, hchain, -, -⟩ := alone_runs halone burnAfterMint (by decide)
  have hone : (performAll (chainClient .protocol 0) burnAfterMint together.chain).1 =
      [.ok (), .ok (), .error (.context burnTexts.sync (.msg "client call failed"))] := rfl
  rw [hone] at hends
  constructor
  · obtain ⟨r₁, _, h₁, hrest, hnet⟩ := List.forall₂_cons_left_iff.1 hends
    obtain ⟨r₂, _, h₂, hlast, rfl⟩ := List.forall₂_cons_left_iff.1 hrest
    obtain ⟨r₃, _, h₃, hnil, rfl⟩ := List.forall₂_cons_left_iff.1 hlast
    obtain rfl := List.forall₂_nil_left_iff.1 hnil
    obtain ⟨e, rfl⟩ := h₃.of_error
    rw [hnet, (h₁.ok_iff ()).1 rfl, (h₂.ok_iff ()).1 rfl]
    exact ⟨e, rfl⟩
  · rw [hchain]
    rfl

end BraleMiden
