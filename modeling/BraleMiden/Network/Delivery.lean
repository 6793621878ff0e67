import BraleMiden.Lib.Systems
import BraleMiden.Network.Client

/-!
# Which client can consume a payment

`mint_tokens` and `transfer_tokens` make private notes, and nothing delivers their details. So in every network in which
clients mint and transfer, blocks are produced and clients sync, each note is known to the client that created it and to
no other (`Apart`, `apart_of_reachable`). A committed payment can be consumed at the client that tracks the target
exactly when that client made it, and the target is a wallet (`payment_reaches_iff`).
-/

namespace BraleMiden

open Effects Systems Network

/-- What can happen in the network: a client calls mint or transfer, a block is produced, a client syncs. -/
inductive NetEvent
  | pay (client : ClientId) (call : TokenCall)
  | block (incl : NoteId → Bool)
  | sync (client : ClientId)

/-- The note that a mint or a transfer creates. -/
def TokenCall.payment (s : Chain) : TokenCall → Option Note
  | .mint i t n => some (s.payNote i t ⟨i, n⟩ .priv)
  | .transfer snd rcp i n => some (s.payNote snd rcp ⟨i, n⟩ .priv)
  | _ => none

/-- One event. A payment may end well or not. -/
def netStep (P : Params) (w : Network) (ev : NetEvent) (w' : Network) : Prop :=
  match ev with
  | .pay c call => call.payment w.chain ≠ none ∧
      ∃ env r k, Op.run (call.op (netClient P c env)) ⟨w, 0⟩ = (r, ⟨w', k⟩)
  | .block incl => w' = { w with chain := w.chain.produceBlock incl }
  | .sync d => w' = w.sync P d

/-- All histories of payments: in the beginning there is no note, and no client knows one. -/
def payments (P : Params) : System Network NetEvent where
  init w := w.chain.notes = .empty ∧ ∀ d, (w.store d).details = ∅
  step := netStep P

/-- Every note is a private payment, not consumed, and only its creator has its details. -/
structure Apart (w : Network) : Prop where
  priv : ∀ e ∈ w.chain.notes.entries, e.note.noteType = .priv ∧ e.note.script = .p2id
  notConsumed : ∀ e ∈ w.chain.notes.entries, e.status.isConsumed = false
  block_le : ∀ e ∈ w.chain.notes.entries, ∀ b, e.status = .committed b → b ≤ w.chain.height
  details : ∀ d, ∀ e ∈ w.chain.notes.entries, e.note.id ∈ (w.store d).details ↔ d = e.creator
  known : ∀ d, ∀ id ∈ (w.store d).details, id ∈ w.chain.notes.ids

section Delivery

variable {P : Params} {c d : ClientId} {env : Env} {w w' w₁ w₂ : Network} {a : AccountId} {n : Note} {call : TokenCall}

/-! ## A payment that ends well -/

/-- An accepted mint or transfer creates its note, and its client keeps the details. -/
theorem payment_ok {s s' : Session Network} (hn : call.payment s.state.chain = some n)
    (h : Op.run (call.op (netClient P c env)) s = (.ok (), s')) : ∃ a, Pays c a n s.state s'.state := by
  cases call with
  | mint i t amount =>
    cases hn
    obtain ⟨asset, req, s₁, hasset, hbuild, hsub⟩ := mintTokens_ok.1 h
    obtain ⟨-, -, rfl⟩ := FungibleAsset.new_ok.1 hasset
    rw [netClient_buildMintFungibleAsset] at hbuild
    obtain ⟨-, rfl, rfl⟩ := Env.run_read_ok.1 hbuild
    have hsubmit := netClient_submit_ok hsub
    exact ⟨i, submit_output_ok hsubmit⟩
  | transfer snd rcp i amount =>
    cases hn
    obtain ⟨asset, req, s₁, hasset, hbuild, hsub⟩ := transferTokens_ok.1 h
    obtain ⟨-, -, rfl⟩ := FungibleAsset.new_ok.1 hasset
    rw [netClient_buildPayToId] at hbuild
    obtain ⟨-, hreq, rfl⟩ := Env.run_consult_ok.1 hbuild
    obtain ⟨-, rfl⟩ := Chain.payRequest_ok.1 hreq
    have hsubmit := netClient_submit_ok hsub
    exact ⟨snd, submit_output_ok hsubmit⟩
  | consume a => cases hn
  | burn snd i amount => cases hn

/-- A payment that fails leaves the network alone. -/
theorem payment_error {s s' : Session Network} {e : Error} (hn : call.payment s.state.chain ≠ none)
    (h : Op.run (call.op (netClient P c env)) s = (.error e, s')) : s.state = s'.state := by
  cases call with
  | mint i t amount => exact mintTokens_keepsOnError netClient_submitFailsKeep i t amount _ _ _ h
  | transfer snd rcp i amount => exact transferTokens_keepsOnError netClient_submitFailsKeep snd rcp i amount _ _ _ h
  | consume a => exact absurd rfl hn
  | burn snd i amount => exact absurd rfl hn

theorem payment_priv {s : Chain} (h : call.payment s = some n) : n.noteType = .priv ∧ n.script = .p2id := by
  cases call <;> cases h <;> exact ⟨rfl, rfl⟩

/-! ## The invariant -/

/-- Nothing is published when every note is private. -/
theorem Apart.published (h : Apart w) : w.published = ∅ := by
  refine Finset.eq_empty_iff_forall_notMem.2 ?_
  intro id hid
  simp only [Network.published, List.mem_toFinset, List.mem_map, List.mem_filter, Bool.and_eq_true,
    decide_eq_true_eq] at hid
  obtain ⟨e, ⟨he, -, hpub⟩, -⟩ := hid
  rw [(h.priv e he).1] at hpub
  cases hpub

theorem Apart.sync (h : Apart w) (d : ClientId) : Apart (w.sync P d) where
  priv := h.priv
  notConsumed := h.notConsumed
  block_le := h.block_le
  details c e he := by
    rw [mem_sync_details, h.published]
    simpa using h.details c e he
  known c id hid := by
    rw [mem_sync_details, h.published] at hid
    exact h.known c id (by simpa using hid)

theorem Apart.pays (h : Apart w) (hp : Pays c a n w w') (hn : n.noteType = .priv ∧ n.script = .p2id) : Apart w' := by
  obtain ⟨⟨-, -, hid, hchain⟩, hw'⟩ := hp
  have hentries : w'.chain.notes.entries = w.chain.notes.entries ++ [⟨n, c, .pending⟩] := by rw [hchain]; rfl
  have hdetails : ∀ x id, id ∈ (w'.store x).details ↔ id ∈ (w.store x).details ∨ x = c ∧ id = n.id := by
    intro x id
    rw [hw', saw_store, mem_created_details, Finset.mem_singleton]
  -- the entries of the new book are the old ones and the new note
  have hmem : ∀ e ∈ w'.chain.notes.entries, e ∈ w.chain.notes.entries ∨ e = ⟨n, c, .pending⟩ := by
    intro e he
    rw [hentries, List.mem_append, List.mem_singleton] at he
    exact he
  refine ⟨?_, ?_, ?_, ?_, ?_⟩
  · intro e he
    rcases hmem e he with he | rfl
    · exact h.priv e he
    · exact hn
  · intro e he
    rcases hmem e he with he | rfl
    · exact h.notConsumed e he
    · rfl
  · intro e he b hb
    rcases hmem e he with he | rfl
    · rw [hchain]
      exact h.block_le e he b hb
    · cases hb
  · intro x e he
    rw [hdetails]
    rcases hmem e he with he | rfl
    · have hne : e.note.id ≠ n.id := fun heq => hid (heq ▸ NoteBook.mem_ids he)
      rw [h.details x e he]
      simp [hne]
    · have hx : n.id ∉ (w.store x).details := fun hmem => hid (h.known x _ hmem)
      simp [hx]
  · intro x id hx
    rw [hdetails] at hx
    rw [NoteBook.ids, hentries, List.map_append, List.mem_append]
    rcases hx with hx | ⟨-, rfl⟩
    · exact .inl (h.known x id hx)
    · exact .inr (List.mem_singleton_self _)

theorem Apart.block (h : Apart w) (incl : NoteId → Bool) :
    Apart { w with chain := w.chain.produceBlock incl } := by
  have hmem : ∀ e' ∈ (w.chain.produceBlock incl).notes.entries, ∃ e ∈ w.chain.notes.entries, e'.note = e.note ∧
      e'.creator = e.creator ∧
        (e'.status = e.status ∨ e.status = .pending ∧ e'.status = .committed (w.chain.height + 1)) :=
    fun e' he' => NoteBook.mem_entries_commit he'
  refine ⟨?_, ?_, ?_, ?_, ?_⟩
  · intro e' he'
    obtain ⟨e, he, hn, -, -⟩ := hmem e' he'
    rw [hn]
    exact h.priv e he
  · intro e' he'
    obtain ⟨e, he, -, -, hs | ⟨-, hs⟩⟩ := hmem e' he'
    · rw [hs]
      exact h.notConsumed e he
    · rw [hs]
      rfl
  · intro e' he' b hb
    obtain ⟨e, he, -, -, hs | ⟨-, hs⟩⟩ := hmem e' he'
    · rw [hs] at hb
      exact (h.block_le e he b hb).trans (Nat.le_succ _)
    · rw [hs] at hb
      cases hb
      exact Nat.le_refl _
  · intro x e' he'
    obtain ⟨e, he, hn, hc, -⟩ := hmem e' he'
    rw [hn, hc]
    exact h.details x e he
  · intro x id hid
    show id ∈ (w.chain.notes.commit incl (w.chain.height + 1)).ids
    rw [(NoteBook.sameNotes_commit incl (w.chain.height + 1) w.chain.notes).ids_eq]
    exact h.known x id hid

theorem Apart.step (h : Apart w) {ev : NetEvent} (hs : netStep P w ev w') : Apart w' := by
  cases ev with
  | sync d =>
    cases hs
    exact h.sync d
  | block incl =>
    cases hs
    exact h.block incl
  | pay c call =>
    obtain ⟨hpay, env, r, k, hrun⟩ := hs
    cases r with
    | error e =>
      have hsame : w = w' := payment_error hpay hrun
      exact hsame ▸ h
    | ok u =>
      obtain ⟨n, hn⟩ := Option.ne_none_iff_exists'.1 hpay
      obtain ⟨a, hp⟩ := payment_ok hn hrun
      exact h.pays hp (payment_priv hn)

/-- **In every history of payments, each note is known to its creator only.** -/
theorem apart_of_reachable (h : Reachable (payments P) w) : Apart w := by
  refine h.invariant ?_ fun h hs => h.step hs
  rintro w ⟨hnotes, hdetails⟩
  have hnone : ∀ e, e ∉ w.chain.notes.entries := by
    intro e he
    rw [hnotes] at he
    cases he
  refine ⟨fun e he => absurd he (hnone e), fun e he => absurd he (hnone e), fun e he => absurd he (hnone e),
    fun _ e he => absurd he (hnone e), fun d id hid => ?_⟩
  rw [hdetails d] at hid
  exact absurd hid (Finset.notMem_empty id)

/-! ## Where a committed payment can be consumed -/

/-- A committed note is listed at a client that tracks its target and has synced, if and only if the client created it
and the target is a wallet. -/
theorem Apart.listed_iff (h : Apart w) {e : NoteEntry} {b : ℕ} (he : e ∈ w.chain.notes.entries)
    (hb : e.status = .committed b) (ht : e.note.target ∈ (w.store d).tracked) (hs : b ≤ (w.store d).syncedTo) :
    e.note ∈ w.consumable d e.note.target ↔ e.note.target.isFaucet = false ∧ d = e.creator := by
  have hcb : e.note.consumableBy e.note.target = !e.note.target.isFaucet := by
    simp [Note.consumableBy, (h.priv e he).2]
  rw [mem_consumable, hcb, h.details d e he]
  constructor
  · rintro ⟨-, hw, hd, -⟩
    exact ⟨by simpa using hw, hd⟩
  · rintro ⟨hw, hd⟩
    exact ⟨ht, by simpa using hw, hd, e, he, rfl, by simpa [hb, NoteStatus.isCommittedBy] using hs⟩

/-- The note is in the book, created by `c`. -/
def CreatedBy (n : Note) (c : ClientId) (w : Network) : Prop :=
  ∃ e ∈ w.chain.notes.entries, e.note = n ∧ e.creator = c

/-- No event changes who created a note. -/
theorem CreatedBy.step (h : CreatedBy n c w) {ev : NetEvent} (hs : netStep P w ev w') : CreatedBy n c w' := by
  obtain ⟨e, he, hn, hc⟩ := h
  cases ev with
  | sync d =>
    cases hs
    exact ⟨e, he, hn, hc⟩
  | block incl =>
    cases hs
    exact ⟨_, List.mem_map_of_mem he, hn, hc⟩
  | pay x call =>
    obtain ⟨hpay, env, r, k, hrun⟩ := hs
    cases r with
    | error err =>
      have hsame : w = w' := payment_error hpay hrun
      exact hsame ▸ ⟨e, he, hn, hc⟩
    | ok u =>
      obtain ⟨m, hm⟩ := Option.ne_none_iff_exists'.1 hpay
      obtain ⟨a, ⟨-, -, hid, hchain⟩, -⟩ := payment_ok hm hrun
      have hentries : w'.chain.notes.entries = w.chain.notes.entries ++ [⟨m, x, .pending⟩] := by rw [hchain]; rfl
      exact ⟨e, hentries ▸ List.mem_append_left _ he, hn, hc⟩

/-- The note is committed at block `b`. -/
def CommittedAt (n : Note) (b : ℕ) (w : Network) : Prop :=
  ∃ e ∈ w.chain.notes.entries, e.note = n ∧ e.status = .committed b

theorem Apart.reaches_iff (h : Apart w) {b : ℕ} (hc : CreatedBy n c w) (hb : CommittedAt n b w)
    (ht : n.target ∈ (w.store d).tracked) (hs : b ≤ (w.store d).syncedTo) :
    n ∈ w.consumable d n.target ↔ n.target.isFaucet = false ∧ d = c := by
  obtain ⟨e, he, rfl, hstatus⟩ := hb
  obtain ⟨e', he', hn, rfl⟩ := hc
  rw [NoteBook.entry_unique he' he (congrArg Note.id hn)]
  exact h.listed_iff he hstatus ht hs

/-! ## What `consume_notes` includes -/

theorem netClient_pollKeeps {R : Network → Network → Prop} [IsPreorder Network R] (hR : ∀ w, R w (w.sync P d)) :
    (netClient P d env).PollKeeps (OnState R) where
  syncState := Env.call_keeps fun h => by
    cases h
    exact hR _
  getConsumableNotes _ := Env.read_keeps _

/-- The notes of the records are the notes that are listed. -/
theorem netClient_filterMap (w : Network) (a : AccountId) :
    ((w.records P d a).filterMap fun p => (netClient P d env).tryInto p.1) = w.listed P d a := by
  simp [records, Client.tryInto, netClient, List.filterMap_map]

/-- A transaction that consumes all that is listed consumes all that can be consumed. -/
theorem listed_eq_consumable (h : Chain.CanConsume P a w.chain (w.listed P d a)) :
    w.listed P d a = w.consumable d a := by
  have hall : ∀ n ∈ w.listed P d a, n.consumableBy a = true := fun n hn => (NoteBook.mem_committed.1 (h.2.2.1 n hn).1).1
  by_cases ht : a ∈ (w.store d).tracked
  · simp only [listed, consumable, committed, if_pos ht] at hall ⊢
    congr 1
    refine List.filter_congr fun e he => ?_
    cases hst : e.status.isCommittedBy (w.store d).syncedTo with
    | false => rfl
    | true =>
      by_cases hid : e.note.id ∈ (w.store d).details
      · have hiff : P.lists a e.note = true ↔ e.note.consumableBy a = true := by
          refine ⟨fun hl => hall e.note (List.mem_map_of_mem (List.mem_filter.2 ⟨he, ?_⟩)), P.complete⟩
          simp [hst, hl, hid]
        rw [Bool.eq_iff_iff.2 hiff]
      · simp [hid]
  · simp [listed, consumable, committed, ht]

/-- What holds when the polling ends holds of the notes that the call consumes: those listed for the account. -/
theorem consumeNotes_net {Q : Network → Prop} (hQ : ∀ w, Q w → Q (w.sync P d)) {s s' : Session Network} (hs : Q s.state)
    (h : Op.run (consumeNotes (netClient P d env) a) s = (.ok (), s')) :
    ∃ w, Q w ∧ Chain.consume P a w.chain (w.consumable d a) = .ok s'.state.chain := by
  obtain ⟨s₁, l, s₂, req, s₃, hloop, hquery, hbuild, hsub⟩ := consumeAvailable_ok.1 h
  have hpoll : (netClient P d env).PollKeeps (OnState (Passes Q)) := netClient_pollKeeps hQ
  have hQ₁ : Q s₁.state := (pollLoop_keeps hpoll (consumeTexts a) a).of_run hloop hs
  rw [netClient_getConsumableNotes] at hquery
  obtain ⟨-, rfl, rfl⟩ := Env.run_read_ok.1 hquery
  rw [netClient_buildConsumeNotes] at hbuild
  obtain ⟨-, rfl, rfl⟩ := Env.run_read_ok.1 hbuild
  have hsubmit := netClient_submit_ok hsub
  rw [netClient_filterMap] at hsubmit
  have hcons : Chain.consume P a s₁.state.chain (s₁.state.listed P d a) = .ok s'.state.chain :=
    submit_consume_ok hsubmit
  rw [listed_eq_consumable (Chain.consume_ok.1 hcons).1] at hcons
  exact ⟨s₁.state, hQ₁, hcons⟩

/-- `consume_notes` consumes a committed payment exactly where the payment is listed. -/
theorem Apart.consumes_iff (h : Apart w) {b k : ℕ} {s' : Session Network} (hc : CreatedBy n c w)
    (hb : CommittedAt n b w) (ht : n.target ∈ (w.store d).tracked) (hs : b ≤ (w.store d).syncedTo)
    (hrun : Op.run (consumeNotes (netClient P d env) n.target) ⟨w, k⟩ = (.ok (), s')) :
    s'.state.chain.notes.IsConsumed n ↔ n.target.isFaucet = false ∧ d = c := by
  -- the syncs of the call keep all that the listing depends on
  let Q : Network → Prop := fun v => v.chain = w.chain ∧ Apart v ∧ n.target ∈ (v.store d).tracked ∧
    b ≤ (v.store d).syncedTo
  have hQ : ∀ v, Q v → Q (v.sync P d) := by
    rintro v ⟨hchain, hv, htv, -⟩
    obtain ⟨e, he, -, hstatus⟩ := hb
    refine ⟨hchain, hv.sync d, ?_, ?_⟩
    · rw [sync_tracked]
      exact htv
    rw [Network.sync_store, Function.update_self]
    show b ≤ v.chain.height
    rw [hchain]
    exact h.block_le e he b hstatus
  obtain ⟨v, ⟨hchain, hv, htv, hsv⟩, hcons⟩ := consumeNotes_net hQ ⟨rfl, h, ht, hs⟩ hrun
  obtain ⟨-, hs'⟩ := Chain.consume_ok.1 hcons
  have hlisted := hv.reaches_iff (c := c) (by rw [CreatedBy, hchain]; exact hc) (by rw [CommittedAt, hchain]; exact hb)
    htv hsv
  have hnot : ¬ v.chain.notes.IsConsumed n := by
    rintro ⟨e, he, -, hstatus⟩
    rw [hv.notConsumed e he] at hstatus
    cases hstatus
  obtain ⟨e, he, hn, -⟩ := hb
  rw [hs', ← hlisted]
  show (v.chain.notes.markConsumed n.target (v.consumable d n.target)).IsConsumed n ↔ _
  rw [NoteBook.isConsumed_markConsumed]
  constructor
  · rintro (hold | ⟨hmem, -⟩)
    · exact absurd hold hnot
    · exact hmem
  · intro hmem
    exact .inr ⟨hmem, e, hchain ▸ he, hn⟩

/-- **Payments across clients.** After a mint or transfer that ended well at client `c`, and any further history, let
its note be committed at block `b`, and let client `d` track the target and have synced to `b` or later. The note can be
consumed at `d`, and is included in every `consume_notes` there that ends well, if and only if `d` is the paying client
and the target is a wallet. -/
theorem payment_reaches_iff {k b : ℕ} {events : List NetEvent} (hw : Reachable (payments P) w)
    (hn : call.payment w.chain = some n)
    (hcall : Op.run (call.op (netClient P c env)) ⟨w, 0⟩ = (.ok (), ⟨w₁, k⟩)) (hrun : Run (payments P) w₁ events w₂)
    (hb : CommittedAt n b w₂) (ht : n.target ∈ (w₂.store d).tracked) (hs : b ≤ (w₂.store d).syncedTo) :
    (n ∈ w₂.consumable d n.target ↔ n.target.isFaucet = false ∧ d = c) ∧
      ∀ env s', Op.run (consumeNotes (netClient P d env) n.target) ⟨w₂, 0⟩ = (.ok (), s') →
        (s'.state.chain.notes.IsConsumed n ↔ n.target.isFaucet = false ∧ d = c) := by
  obtain ⟨a, hp⟩ := payment_ok hn hcall
  have hapart : Apart w₂ :=
    hrun.keeps (fun h hs => h.step hs) ((apart_of_reachable hw).pays hp (payment_priv hn))
  have hcreated₁ : CreatedBy n c w₁ := by
    obtain ⟨⟨-, -, hid, hchain⟩, -⟩ := hp
    have hentries : w₁.chain.notes.entries = w.chain.notes.entries ++ [⟨n, c, .pending⟩] := by rw [hchain]; rfl
    exact ⟨⟨n, c, .pending⟩, hentries ▸ List.mem_append_right _ (List.mem_singleton_self _), rfl, rfl⟩
  have hcreated : CreatedBy n c w₂ := hrun.keeps (fun h hs => h.step hs) hcreated₁
  exact ⟨hapart.reaches_iff hcreated hb ht hs, fun env s' hcons => hapart.consumes_iff hcreated hb ht hs hcons⟩

end Delivery

/-! ## Two clients -/

namespace TwoClients

def issuer : AccountId := ⟨true, 1⟩

def alice : AccountId := ⟨false, 2⟩

def bob : AccountId := ⟨false, 3⟩

/-- The accounts are there, and nothing else. -/
def opening : Chain := ⟨{issuer, alice, bob}, fun _ => 1000, 0, 0, .empty, 0⟩

/-- Client 0 tracks the issuer and Alice, client 1 tracks Bob. -/
def start : Network where
  chain := opening
  store d := ⟨if d = 0 then {issuer, alice} else {bob}, ∅, 0⟩
  seen _ _ := opening

/-- Client 0 has minted 100 tokens to `t`. -/
def paid (t : AccountId) : Network :=
  (Op.run ((TokenCall.mint issuer t 100).op (netClient .protocol 0 (.steady none))) ⟨start, 0⟩).2.state

/-- A block has included the note, and client `d` has synced. -/
def settled (t : AccountId) (d : ClientId) : Network :=
  Network.sync .protocol d { paid t with chain := (paid t).chain.produceBlock fun _ => true }

/-- The note of the mint. -/
def mintNote (t : AccountId) : Note := start.chain.payNote issuer t ⟨issuer, 100⟩ .priv

theorem run_paid (t : AccountId) :
    Op.run ((TokenCall.mint issuer t 100).op (netClient .protocol 0 (.steady none))) ⟨start, 0⟩ =
      (.ok (), ⟨paid t, 2⟩) := rfl

theorem run_settled (t : AccountId) (d : ClientId) :
    Run (payments .protocol) (paid t) [.block fun _ => true, .sync d] (settled t d) :=
  .cons rfl (.cons rfl (.nil _))

theorem reachable_start : Reachable (payments .protocol) start := ⟨start, [], ⟨rfl, fun _ => rfl⟩, .nil _⟩

end TwoClients

open TwoClients

/-- A mint to Alice, whom the minting client tracks, can be consumed there. -/
theorem mint_reaches_alice : mintNote alice ∈ (settled alice 0).consumable 0 alice :=
  (payment_reaches_iff (n := mintNote alice) reachable_start rfl (run_paid alice) (run_settled alice 0)
    ⟨⟨mintNote alice, 0, .committed 1⟩, by decide, rfl, rfl⟩ (by decide) (by decide)).1.2 ⟨rfl, rfl⟩

/-- A mint to Bob, whom the other client tracks, is committed, that client has synced, and cannot consume it. -/
theorem mint_misses_bob :
    (TokenCall.mint issuer bob 100).payment start.chain = some (mintNote bob) ∧
      Op.run ((TokenCall.mint issuer bob 100).op (netClient .protocol 0 (.steady none))) ⟨start, 0⟩ =
        (.ok (), ⟨paid bob, 2⟩) ∧
      Run (payments .protocol) (paid bob) [.block fun _ => true, .sync 1] (settled bob 1) ∧
      CommittedAt (mintNote bob) 1 (settled bob 1) ∧ bob ∈ ((settled bob 1).store 1).tracked ∧
      1 ≤ ((settled bob 1).store 1).syncedTo ∧ mintNote bob ∉ (settled bob 1).consumable 1 bob :=
  ⟨rfl, run_paid bob, run_settled bob 1, ⟨⟨mintNote bob, 0, .committed 1⟩, by decide, rfl, rfl⟩, by decide, by decide,
    by decide⟩

end BraleMiden
