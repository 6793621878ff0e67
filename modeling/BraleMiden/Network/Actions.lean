import BraleMiden.Network.Client
import BraleMiden.Chain.Conservation

/-!
# What the clients do to the network

The single actions: a client has a transaction accepted, syncs, delivers details of notes that it has to another client,
or starts to track an account; a block is produced. The requests are arbitrary, so the system `netActions` covers
whatever the operations, and other software, submit.

* `submit_cases`: all that an accepted transaction can do;
* `Informed`: who knows which note. Notes are known to their creators, public ones to everybody who has synced past
  them;
* `orderly_of_reachable`: in every reachable network this holds, and value is conserved;
* `HasEntry.leads`: an entry stays, and its status only moves on;
* `details_leads`: without a delivery, a client learns of a note that is there only by syncing, and if it is public.
-/

namespace BraleMiden

open Effects Systems

/-- What a client can do, and blocks. -/
inductive NetAction
  | submit (client : ClientId) (account : AccountId) (request : TransactionRequest)
  | sync (client : ClientId)
  | deliver (source target : ClientId) (ids : Finset NoteId)
  | track (client : ClientId) (account : AccountId)
  | block (incl : NoteId → Bool)

/-- No token issued, no note created, nothing known. -/
structure NetFresh (P : Params) (w : Network) : Prop where
  chain : Fresh P w.chain
  details : ∀ d, (w.store d).details = ∅
  syncedTo : ∀ d, (w.store d).syncedTo ≤ w.chain.height
  seen : ∀ d a, w.seen d a = w.chain

namespace Network

/-- Client `d` has got the details of `ids`. -/
def delivered (d : ClientId) (ids : Finset NoteId) (w : Network) : Network := w.created d ids w.chain

/-- Client `d` has started to track `a`. -/
def tracking (d : ClientId) (a : AccountId) (w : Network) : Network :=
  (w.update w.chain d { w.store d with tracked := insert a (w.store d).tracked }).saw d a

end Network

/-- One action. Only details that the source has can be delivered. -/
def actionStep (P : Params) (w : Network) (act : NetAction) (w' : Network) : Prop :=
  match act with
  | .submit d a req => w.submit P d a req = .ok w'
  | .sync d => w' = w.sync P d
  | .deliver c d ids => ids ⊆ (w.store c).details ∧ w' = w.delivered d ids
  | .track d a => w' = w.tracking d a
  | .block incl => w' = { w with chain := w.chain.produceBlock incl }

/-- All sequences of actions. -/
def netActions (P : Params) : System Network NetAction where
  init := NetFresh P
  step := actionStep P

/-! ## Transactions with any number of outputs -/

section Outputs

variable {P : Params} {c : ClientId} {a : AccountId} {s s' : Chain} {ns : List Note}

/-- The outputs of a transaction are new notes, pending, at the end of the book. -/
theorem Chain.foldlM_outputNote (h : ns.foldlM (Chain.outputNote c a) s = .ok s') :
    s'.notes.entries = s.notes.entries ++ ns.map (fun n => ⟨n, c, .pending⟩) ∧ s'.height = s.height ∧
      ∀ n ∈ ns, n.id ∉ s.notes.ids := by
  induction ns generalizing s with
  | nil =>
    cases h
    simp
  | cons n ns ih =>
    rw [List.foldlM_cons] at h
    obtain ⟨s₁, hfirst, hrest⟩ := except_bind_ok.1 h
    obtain ⟨hid, -, rfl⟩ := Chain.outputNote_ok.1 hfirst
    obtain ⟨hentries, hheight, hnew⟩ := ih hrest
    refine ⟨?_, hheight, ?_⟩
    · rw [hentries]
      simp [Chain.afterOutput, NoteBook.insert]
    · intro m hm
      rcases List.mem_cons.1 hm with rfl | hm
      · exact hid
      · intro hmem
        refine hnew m hm ?_
        simp only [Chain.afterOutput, NoteBook.ids, NoteBook.insert, List.map_append, List.mem_append]
        exact .inl hmem

theorem Chain.submit_outputs (h : s.submit P c a (.ownOutputNotes ns) = .ok s') :
    s'.notes.entries = s.notes.entries ++ ns.map (fun n => ⟨n, c, .pending⟩) ∧ s'.height = s.height ∧
      ∀ n ∈ ns, n.id ∉ s.notes.ids := by
  unfold Chain.submit at h
  split at h
  · exact Chain.foldlM_outputNote h
  · cases h

end Outputs

namespace Network

/-- Client `d` has output the notes `ns`. -/
structure OutputBy (d : ClientId) (ns : List Note) (w w' : Network) : Prop where
  entries : w'.chain.notes.entries = w.chain.notes.entries ++ ns.map (fun n => ⟨n, d, .pending⟩)
  height : w'.chain.height = w.chain.height
  fresh : ∀ n ∈ ns, n.id ∉ w.chain.notes.ids
  store : w'.store = (w.created d (ns.map (·.id)).toFinset w'.chain).store

/-- Client `d` has consumed the notes `ns` for `a`, and knew them all. -/
structure ConsumedBy (P : Params) (d : ClientId) (a : AccountId) (ns : List Note) (w w' : Network) : Prop where
  details : ∀ n ∈ ns, n.id ∈ (w.store d).details
  can : Chain.CanConsume P a w.chain ns
  chain : w'.chain = Chain.afterConsume a w.chain ns
  store : w'.store = w.store

variable {P : Params} {c d : ClientId} {a : AccountId} {w w' : Network} {req : TransactionRequest}

/-- All that an accepted transaction can do. -/
theorem submit_cases (h : w.submit P d a req = .ok w') :
    a ∈ (w.store d).tracked ∧ w.chain.submit P d a req = .ok w'.chain ∧
      ((∃ ns, req = .ownOutputNotes ns ∧ OutputBy d ns w w') ∨
        ∃ ns, req = .consumeNotes ns ∧ ConsumedBy P d a ns w w') := by
  obtain ⟨ha, hs, ⟨ns, rfl, hw'⟩ | ⟨ns, rfl, hknown, hw'⟩⟩ := submit_ok h
  · obtain ⟨hentries, hheight, hnew⟩ := Chain.submit_outputs hs
    have hstore : w'.store = (w.created d (ns.map (·.id)).toFinset w'.chain).store :=
      (congrArg Network.store hw').trans saw_store
    exact ⟨ha, hs, .inl ⟨ns, rfl, hentries, hheight, hnew, hstore⟩⟩
  · obtain ⟨hcan, hchain⟩ := Chain.consume_ok.1 (Chain.submit_consume.1 hs).2
    have hstore : w'.store = w.store := (congrArg Network.store hw').trans saw_store
    exact ⟨ha, hs, .inr ⟨ns, rfl, hknown, hcan, hchain, hstore⟩⟩

/-! ### Entries after an action -/

theorem OutputBy.mem {ns : List Note} (h : OutputBy d ns w w') {e : NoteEntry} :
    e ∈ w'.chain.notes.entries ↔ e ∈ w.chain.notes.entries ∨ ∃ n ∈ ns, e = ⟨n, d, .pending⟩ := by
  rw [h.entries, List.mem_append, List.mem_map]
  simp only [eq_comm]

theorem OutputBy.mem_details {ns : List Note} (h : OutputBy d ns w w') {id : NoteId} :
    id ∈ (w'.store c).details ↔ id ∈ (w.store c).details ∨ c = d ∧ ∃ n ∈ ns, n.id = id := by
  rw [h.store, mem_created_details]
  simp

theorem OutputBy.store_eq {ns : List Note} (h : OutputBy d ns w w') :
    (w'.store c).tracked = (w.store c).tracked ∧ (w'.store c).syncedTo = (w.store c).syncedTo := by
  rw [h.store]
  by_cases hc : c = d
  · subst hc
    rw [created, update_store_self]
    exact ⟨rfl, rfl⟩
  · rw [created, update_store_of_ne hc]
    exact ⟨rfl, rfl⟩

theorem ConsumedBy.mem {ns : List Note} (h : ConsumedBy P d a ns w w') {e : NoteEntry} :
    e ∈ w'.chain.notes.entries ↔ ∃ e₀ ∈ w.chain.notes.entries,
      e = { e₀ with status := if e₀.note ∈ ns then .consumed a else e₀.status } := by
  rw [h.chain]
  simp only [Chain.afterConsume, NoteBook.markConsumed, NoteBook.setStatus, List.mem_map, eq_comm]

theorem ConsumedBy.height {ns : List Note} (h : ConsumedBy P d a ns w w') :
    w'.chain.height = w.chain.height ∧ w'.store = w.store := by
  refine ⟨?_, h.store⟩
  rw [h.chain]
  rfl

/-- What a client consumes can be consumed by the account, and is committed. -/
theorem ConsumedBy.committed {ns : List Note} (h : ConsumedBy P d a ns w w') {n : Note} (hn : n ∈ ns) :
    n.consumableBy a = true ∧ ∃ e ∈ w.chain.notes.entries, e.note = n ∧ e.status.isCommitted = true :=
  NoteBook.mem_committed.1 (h.can.2.2.1 n hn).1

/-! ### Stores after an action -/

/-- Starting to track an account changes one store, and there only what is tracked. -/
theorem tracking_store : ((w.tracking d a).store c).details = (w.store c).details ∧
    ((w.tracking d a).store c).syncedTo = (w.store c).syncedTo := by
  by_cases h : c = d
  · subst h
    rw [tracking, saw_store, update_store_self]
    exact ⟨rfl, rfl⟩
  · rw [tracking, saw_store, update_store_of_ne h]
    exact ⟨rfl, rfl⟩

theorem mem_tracking_tracked {x : AccountId} :
    x ∈ ((w.tracking d a).store c).tracked ↔ x ∈ (w.store c).tracked ∨ c = d ∧ x = a := by
  by_cases h : c = d
  · subst h
    rw [tracking, saw_store, update_store_self]
    simp [or_comm]
  · rw [tracking, saw_store, update_store_of_ne h]
    simp [h]

theorem mem_delivered_details {ids : Finset NoteId} {id : NoteId} :
    id ∈ ((w.delivered d ids).store c).details ↔ id ∈ (w.store c).details ∨ c = d ∧ id ∈ ids :=
  mem_created_details

theorem delivered_store {ids : Finset NoteId} : ((w.delivered d ids).store c).tracked = (w.store c).tracked ∧
    ((w.delivered d ids).store c).syncedTo = (w.store c).syncedTo := by
  by_cases h : c = d
  · subst h
    rw [delivered, created, update_store_self]
    exact ⟨rfl, rfl⟩
  · rw [delivered, created, update_store_of_ne h]
    exact ⟨rfl, rfl⟩

theorem sync_syncedTo : ((w.sync P d).store c).syncedTo = if c = d then w.chain.height else (w.store c).syncedTo := by
  by_cases h : c = d
  · subst h
    rw [sync_store, Function.update_self, if_pos rfl]
    rfl
  · rw [sync_store, Function.update_of_ne h, if_neg h]

theorem mem_published {id : NoteId} : id ∈ w.published ↔
    ∃ e ∈ w.chain.notes.entries, e.note.id = id ∧ e.status.isCommitted = true ∧ e.note.noteType = .pub := by
  simp only [published, List.mem_toFinset, List.mem_map, List.mem_filter, Bool.and_eq_true, decide_eq_true_eq]
  constructor
  · rintro ⟨e, ⟨he, hs, ht⟩, hid⟩
    exact ⟨e, he, hid, hs, ht⟩
  · rintro ⟨e, he, hid, hs, ht⟩
    exact ⟨e, ⟨he, hs, ht⟩, hid⟩

end Network

open Network

/-! ## Who knows which note -/

/-- Notes are known to their creators, public ones to every client that has synced past them. -/
structure Informed (w : Network) : Prop where
  block_le : ∀ e ∈ w.chain.notes.entries, ∀ b, e.status = .committed b → b ≤ w.chain.height
  syncedTo_le : ∀ d, (w.store d).syncedTo ≤ w.chain.height
  known : ∀ d, ∀ id ∈ (w.store d).details, id ∈ w.chain.notes.ids
  creator : ∀ e ∈ w.chain.notes.entries, e.note.id ∈ (w.store e.creator).details
  pub : ∀ d, ∀ e ∈ w.chain.notes.entries, e.note.noteType = .pub → ∀ b, e.status = .committed b →
    b ≤ (w.store d).syncedTo → e.note.id ∈ (w.store d).details

section Invariants

variable {P : Params} {c d : ClientId} {a : AccountId} {ns : List Note} {w w' : Network} {act : NetAction}

theorem Informed.sync (h : Informed w) (d : ClientId) : Informed (w.sync P d) where
  block_le := h.block_le
  syncedTo_le c := by
    rw [sync_syncedTo]
    split
    · exact Nat.le_refl _
    · exact h.syncedTo_le c
  known c id hid := by
    rw [mem_sync_details] at hid
    rcases hid with hid | ⟨-, hid⟩
    · exact h.known c id hid
    · obtain ⟨e, he, rfl, -, -⟩ := mem_published.1 hid
      exact NoteBook.mem_ids he
  creator e he := by
    rw [mem_sync_details]
    exact .inl (h.creator e he)
  pub c e he hpub b hb hle := by
    rw [mem_sync_details]
    by_cases hc : c = d
    · exact .inr ⟨hc, mem_published.2 ⟨e, he, rfl, by rw [hb]; rfl, hpub⟩⟩
    · rw [sync_syncedTo, if_neg hc] at hle
      exact .inl (h.pub c e he hpub b hb hle)

theorem Informed.block (h : Informed w) (incl : NoteId → Bool) :
    Informed { w with chain := w.chain.produceBlock incl } := by
  have hmem : ∀ e' ∈ (w.chain.produceBlock incl).notes.entries, ∃ e ∈ w.chain.notes.entries, e'.note = e.note ∧
      e'.creator = e.creator ∧
        (e'.status = e.status ∨ e.status = .pending ∧ e'.status = .committed (w.chain.height + 1)) :=
    fun e' he' => NoteBook.mem_entries_commit he'
  refine ⟨?_, ?_, ?_, ?_, ?_⟩
  · intro e' he' b hb
    show b ≤ w.chain.height + 1
    obtain ⟨e, he, -, -, hs | ⟨-, hs⟩⟩ := hmem e' he'
    · rw [hs] at hb
      have := h.block_le e he b hb
      omega
    · rw [hs] at hb
      cases hb
      exact Nat.le_refl _
  · intro c
    exact (h.syncedTo_le c).trans (Nat.le_succ _)
  · intro c id hid
    show id ∈ (w.chain.notes.commit incl (w.chain.height + 1)).ids
    rw [(NoteBook.sameNotes_commit incl (w.chain.height + 1) w.chain.notes).ids_eq]
    exact h.known c id hid
  · intro e' he'
    obtain ⟨e, he, hn, hc, -⟩ := hmem e' he'
    rw [hn, hc]
    exact h.creator e he
  · intro c e' he' hpub b hb hle
    obtain ⟨e, he, hn, -, hs | ⟨-, hs⟩⟩ := hmem e' he'
    · rw [hn] at hpub ⊢
      rw [hs] at hb
      exact h.pub c e he hpub b hb hle
    · -- nobody has synced past the new block
      rw [hs] at hb
      cases hb
      have hc := h.syncedTo_le c
      have hlt : w.chain.height + 1 ≤ (w.store c).syncedTo := hle
      omega

theorem Informed.output (h : Informed w) (ho : OutputBy d ns w w') : Informed w' := by
  refine ⟨?_, ?_, ?_, ?_, ?_⟩
  · intro e he b hb
    rw [ho.height]
    rcases ho.mem.1 he with he | ⟨n, -, rfl⟩
    · exact h.block_le e he b hb
    · cases hb
  · intro c
    rw [ho.height, ho.store_eq.2]
    exact h.syncedTo_le c
  · intro c id hid
    rw [NoteBook.ids, ho.entries, List.map_append, List.mem_append]
    rcases ho.mem_details.1 hid with hid | ⟨-, n, hn, rfl⟩
    · exact .inl (h.known c id hid)
    · refine .inr ?_
      rw [List.map_map]
      exact List.mem_map_of_mem hn
  · intro e he
    rcases ho.mem.1 he with he | ⟨n, hn, rfl⟩
    · exact ho.mem_details.2 (.inl (h.creator e he))
    · exact ho.mem_details.2 (.inr ⟨rfl, n, hn, rfl⟩)
  · intro c e he hpub b hb hle
    rcases ho.mem.1 he with he | ⟨n, -, rfl⟩
    · rw [ho.store_eq.2] at hle
      exact ho.mem_details.2 (.inl (h.pub c e he hpub b hb hle))
    · cases hb

theorem Informed.consume (h : Informed w) (hc : ConsumedBy P d a ns w w') : Informed w' := by
  obtain ⟨hheight, hstore⟩ := hc.height
  -- an entry of the new book has the note and the creator of an old one, and its status if it is not consumed
  have hmem : ∀ e ∈ w'.chain.notes.entries, ∃ e₀ ∈ w.chain.notes.entries, e.note = e₀.note ∧ e.creator = e₀.creator ∧
      ∀ b, e.status = .committed b → e₀.status = .committed b := by
    intro e he
    obtain ⟨e₀, he₀, rfl⟩ := hc.mem.1 he
    refine ⟨e₀, he₀, rfl, rfl, ?_⟩
    intro b hb
    simp only at hb
    split at hb
    · cases hb
    · exact hb
  refine ⟨?_, ?_, ?_, ?_, ?_⟩
  · intro e he b hb
    obtain ⟨e₀, he₀, -, -, hs⟩ := hmem e he
    rw [hheight]
    exact h.block_le e₀ he₀ b (hs b hb)
  · intro c
    rw [hheight, hstore]
    exact h.syncedTo_le c
  · intro c id hid
    rw [hstore] at hid
    obtain ⟨e, he, heq⟩ := List.mem_map.1 (h.known c id hid)
    exact List.mem_map.2 ⟨_, hc.mem.2 ⟨e, he, rfl⟩, heq⟩
  · intro e he
    obtain ⟨e₀, he₀, hn, hcr, -⟩ := hmem e he
    rw [hstore, hn, hcr]
    exact h.creator e₀ he₀
  · intro c e he hpub b hb
    obtain ⟨e₀, he₀, hn, -, hs⟩ := hmem e he
    rw [hstore, hn]
    rw [hn] at hpub
    exact h.pub c e₀ he₀ hpub b (hs b hb)

theorem Informed.deliver (h : Informed w) {ids : Finset NoteId} (hids : ids ⊆ (w.store c).details) :
    Informed (w.delivered d ids) where
  block_le := h.block_le
  syncedTo_le x := by
    rw [delivered_store.2]
    exact h.syncedTo_le x
  known x id hid := by
    rcases mem_delivered_details.1 hid with hid | ⟨-, hid⟩
    · exact h.known x id hid
    · exact h.known c id (hids hid)
  creator e he := mem_delivered_details.2 (.inl (h.creator e he))
  pub x e he hpub b hb hle := by
    rw [delivered_store.2] at hle
    exact mem_delivered_details.2 (.inl (h.pub x e he hpub b hb hle))

theorem Informed.track (h : Informed w) (d : ClientId) (a : AccountId) : Informed (w.tracking d a) where
  block_le := h.block_le
  syncedTo_le x := by
    rw [tracking_store.2]
    exact h.syncedTo_le x
  known x id hid := by
    rw [tracking_store.1] at hid
    exact h.known x id hid
  creator e he := by
    rw [tracking_store.1]
    exact h.creator e he
  pub x e he hpub b hb hle := by
    rw [tracking_store.2] at hle
    rw [tracking_store.1]
    exact h.pub x e he hpub b hb hle

theorem Informed.step (h : Informed w) (hs : actionStep P w act w') : Informed w' := by
  cases act with
  | sync d =>
    cases hs
    exact h.sync d
  | deliver c d ids =>
    obtain ⟨hids, rfl⟩ := hs
    exact h.deliver hids
  | track d a =>
    cases hs
    exact h.track d a
  | block incl =>
    cases hs
    exact h.block incl
  | submit d a req =>
    rcases (submit_cases hs).2.2 with ⟨ns, -, ho⟩ | ⟨ns, -, hc⟩
    · exact h.output ho
    · exact h.consume hc

/-- A client tracks a new account only by an action of its own. -/
theorem mem_tracked_step {x : AccountId} (hs : actionStep P w act w') :
    x ∈ (w'.store c).tracked ↔ x ∈ (w.store c).tracked ∨ act = .track c x := by
  cases act with
  | sync d =>
    cases hs
    simp [sync_tracked]
  | deliver c d ids =>
    obtain ⟨-, rfl⟩ := hs
    simp [delivered_store.1]
  | track d a =>
    cases hs
    rw [mem_tracking_tracked, NetAction.track.injEq, @eq_comm _ c d, @eq_comm _ x a]
  | block incl =>
    cases hs
    simp
  | submit d a req =>
    rcases (submit_cases hs).2.2 with ⟨ns, -, ho⟩ | ⟨ns, -, hc⟩
    · simp [ho.store_eq.1]
    · simp [hc.height.2]

/-- What transactions and blocks keep, every action keeps. -/
theorem chain_step {Q : Chain → Prop} (hblock : ∀ {s incl}, Q s → Q (s.produceBlock incl))
    (hsubmit : ∀ {s s' c a req}, Q s → s.submit P c a req = .ok s' → Q s') (h : Q w.chain)
    (hs : actionStep P w act w') : Q w'.chain := by
  cases act with
  | sync d =>
    cases hs
    exact h
  | deliver c d ids =>
    obtain ⟨-, rfl⟩ := hs
    exact h
  | track d a =>
    cases hs
    exact h
  | block incl =>
    cases hs
    exact hblock h
  | submit d a req => exact hsubmit h (submit_cases hs).2.1

/-! ## Reachable networks -/

/-- The invariants together. -/
structure Orderly (P : Params) (w : Network) : Prop where
  sound : Chain.Sound P w.chain
  informed : Informed w

theorem NetFresh.orderly (h : NetFresh P w) : Orderly P w := by
  have hnone : ∀ e, e ∉ w.chain.notes.entries := by
    intro e he
    rw [h.chain.notes] at he
    cases he
  refine ⟨h.chain.sound, ?_, h.syncedTo, ?_, ?_, ?_⟩
  · exact fun e he => absurd he (hnone e)
  · intro d id hid
    rw [h.details d] at hid
    exact absurd hid (Finset.notMem_empty id)
  · exact fun e he => absurd he (hnone e)
  · exact fun _ e he => absurd he (hnone e)

theorem Orderly.step (h : Orderly P w) (hs : actionStep P w act w') : Orderly P w' where
  sound := by
    refine chain_step ?_ (fun h hs => h.submit hs) h.sound hs
    intro s incl h
    exact h.synced (Chain.synced_sync s (some incl))
  informed := h.informed.step hs

/-- **In every reachable network, value is conserved, and notes are known where they have to be.** -/
theorem orderly_of_reachable (h : Reachable (netActions P) w) : Orderly P w :=
  h.invariant NetFresh.orderly fun h hs => h.step hs

theorem Orderly.leads (h : Orderly P w) (hl : Leads (netActions P) w w') : Orderly P w' :=
  hl.keeps (fun h hs => h.step hs) h

/-- Clients go on tracking their accounts. -/
theorem tracked_leads (h : Leads (netActions P) w w') : (w.store c).tracked ⊆ (w'.store c).tracked := by
  refine h.keeps (P := fun v => (w.store c).tracked ⊆ (v.store c).tracked) ?_ (subset_refl _)
  intro v l v' hv hs x hx
  exact (mem_tracked_step hs).2 (.inl (hv hx))

/-- A client that does not start to track an account does not track it. -/
theorem notMem_tracked_leads {ok : NetAction → Prop} {x : AccountId} (hok : ¬ ok (.track c x))
    (h : Leads ((netActions P).only ok) w w') (hx : x ∉ (w.store c).tracked) : x ∉ (w'.store c).tracked := by
  refine h.keeps (P := fun v => x ∉ (v.store c).tracked) ?_ hx
  rintro v l v' hv ⟨hl, hs⟩ hmem
  rcases (mem_tracked_step hs).1 hmem with hmem | rfl
  · exact hv hmem
  · exact hok hl

/-! ## What a client has seen of an account -/

/-- What client `c` has seen of `a` is what the chain has. -/
structure UpToDate (c : ClientId) (a : AccountId) (w : Network) : Prop where
  vault : (w.seen c a).vault a = w.chain.vault a
  issuance : (w.seen c a).issuance a = w.chain.issuance a

theorem UpToDate.of_eq (h : w.seen c a = w.chain) : UpToDate c a w := by
  constructor <;> rw [h]

theorem NetFresh.upToDate (h : NetFresh P w) : UpToDate c a w := .of_eq (h.seen c a)

theorem UpToDate.account_eq (h : UpToDate c a w) (P : Params) : (w.seen c a).account P a = w.chain.account P a :=
  Chain.account_eq h.vault h.issuance P

/-- An accepted transaction of client `d` is seen by it, and by no other client. -/
theorem submit_seen {req : TransactionRequest} (h : w.submit P d a req = .ok w') (x : AccountId) :
    w'.seen c x = if c = d ∧ x = a then w'.chain else w.seen c x := by
  have hsaw : ∃ v : Network, v.seen = w.seen ∧ w' = v.saw d a := by
    obtain ⟨-, -, ⟨ns, -, hw'⟩ | ⟨ns, -, -, hw'⟩⟩ := submit_ok h
    · exact ⟨w.created d (ns.map (·.id)).toFinset w'.chain, rfl, hw'⟩
    · exact ⟨{ w with chain := w'.chain }, rfl, hw'⟩
  obtain ⟨v, hseen, rfl⟩ := hsaw
  split
  · rename_i hsame
    rw [hsame.1, hsame.2, saw_seen_self]
    rfl
  · rename_i hne
    rw [saw_seen_of_ne hne, hseen]

theorem UpToDate.sync {x : AccountId} (h : UpToDate c x w) (P : Params) (d : ClientId) : UpToDate c x (w.sync P d) := by
  by_cases hc : c = d ∧ P.publishes x = true
  · exact .of_eq (by rw [sync_seen, if_pos hc, sync_chain])
  · constructor <;> rw [sync_seen, if_neg hc, sync_chain]
    · exact h.vault
    · exact h.issuance

/-- It stays up to date as long as nobody else has a transaction of the account accepted. -/
theorem UpToDate.step {x : AccountId} (h : UpToDate c x w) (hown : ∀ d req, act = .submit d x req → d = c)
    (hs : actionStep P w act w') : UpToDate c x w' := by
  cases act with
  | sync d =>
    cases hs
    exact h.sync P d
  | deliver d e ids =>
    obtain ⟨-, rfl⟩ := hs
    exact ⟨h.vault, h.issuance⟩
  | track d a =>
    cases hs
    by_cases hsame : c = d ∧ x = a
    · obtain ⟨rfl, rfl⟩ := hsame
      exact .of_eq saw_seen_self
    · constructor <;> rw [tracking, saw_seen_of_ne hsame]
      · exact h.vault
      · exact h.issuance
  | block incl =>
    cases hs
    exact ⟨h.vault, h.issuance⟩
  | submit d a req =>
    by_cases hx : x = a
    · subst hx
      exact .of_eq (by rw [submit_seen hs, if_pos ⟨(hown d req rfl).symm, rfl⟩])
    · obtain ⟨hissuance, hvault⟩ := Chain.submit_other hx (submit_cases hs).2.1
      constructor <;> rw [submit_seen hs, if_neg fun hsame => hx hsame.2]
      · rw [hvault]
        exact h.vault
      · rw [hissuance]
        exact h.issuance

/-- No client but `c` tracks `a`. -/
def Network.SoleTracker (w : Network) (c : ClientId) (a : AccountId) : Prop :=
  ∀ d, a ∈ (w.store d).tracked → d = c

/-- **In every reachable network, a client is up to date about the accounts that no other client tracks.** -/
theorem upToDate_of_reachable (h : Reachable (netActions P) w) : w.SoleTracker c a → UpToDate c a w := by
  refine h.invariant (P := fun v => v.SoleTracker c a → UpToDate c a v) ?_ ?_
  · intro v hinit _
    exact hinit.upToDate
  · intro v act v' ih hs hsole
    have hbefore : v.SoleTracker c a := fun d hd => hsole d ((mem_tracked_step hs).2 (.inl hd))
    refine (ih hbefore).step ?_ hs
    rintro d req rfl
    exact hbefore d (submit_cases hs).1

/-! ## Entries -/

/-- The note is in the book with this creator, and the status satisfies `p`. -/
def HasEntry (n : Note) (c : ClientId) (p : NoteStatus → Prop) (w : Network) : Prop :=
  ∃ e ∈ w.chain.notes.entries, e.note = n ∧ e.creator = c ∧ p e.status

/-- A status that satisfies `p` does so after an action, if being included does, and being consumed by the account of
the action. -/
theorem HasEntry.step {n : Note} {p : NoteStatus → Prop}
    (hcons : ∀ d a req, act = .submit d a req → ∀ st, st.isConsumed = false → p st → p (.consumed a))
    (hincl : p .pending → ∀ b, p (.committed b)) (h : HasEntry n c p w) (hs : actionStep P w act w') :
    HasEntry n c p w' := by
  obtain ⟨e, he, hn, hc, hp⟩ := h
  cases act with
  | sync d =>
    cases hs
    exact ⟨e, he, hn, hc, hp⟩
  | deliver c d ids =>
    obtain ⟨-, rfl⟩ := hs
    exact ⟨e, he, hn, hc, hp⟩
  | track d a =>
    cases hs
    exact ⟨e, he, hn, hc, hp⟩
  | block incl =>
    cases hs
    refine ⟨_, List.mem_map_of_mem he, hn, hc, ?_⟩
    rcases hst : e.status with _ | b | _
    · rw [hst] at hp
      by_cases hi : incl e.note.id = true
      · simp only [hst, hi, ↓reduceIte]
        exact hincl hp _
      · simp only [hst, hi, Bool.false_eq_true, ↓reduceIte]
        exact hp
    · rw [hst] at hp
      simp only [hst]
      exact hp
    · rw [hst] at hp
      simp only [hst]
      exact hp
  | submit d a req =>
    rcases (submit_cases hs).2.2 with ⟨ns, -, ho⟩ | ⟨ns, -, hcon⟩
    · exact ⟨e, ho.mem.2 (.inl he), hn, hc, hp⟩
    · refine ⟨_, hcon.mem.2 ⟨e, he, rfl⟩, hn, hc, ?_⟩
      show p (if e.note ∈ ns then .consumed a else e.status)
      split
      · -- what is consumed was committed
        rename_i hmem
        obtain ⟨-, e', he', hn', hst⟩ := hcon.committed hmem
        rw [NoteBook.entry_unique he' he (congrArg Note.id hn')] at hst
        exact hcons d a req rfl e.status (NoteStatus.isConsumed_of_isCommitted hst) hp
      · exact hp

/-- The same along actions of one kind. -/
theorem HasEntry.leads_only {ok : NetAction → Prop} {n : Note} {p : NoteStatus → Prop}
    (hcons : ∀ d a req, ok (.submit d a req) → ∀ st, st.isConsumed = false → p st → p (.consumed a))
    (hincl : p .pending → ∀ b, p (.committed b)) (h : HasEntry n c p w) (hl : Leads ((netActions P).only ok) w w') :
    HasEntry n c p w' := by
  refine hl.keeps (P := HasEntry n c p) ?_ h
  rintro v act v' hv ⟨hact, hs⟩
  exact hv.step (fun d a req heq => hcons d a req (heq ▸ hact)) hincl hs

theorem HasEntry.leads {n : Note} {p : NoteStatus → Prop}
    (hcons : ∀ a st, st.isConsumed = false → p st → p (.consumed a)) (hincl : p .pending → ∀ b, p (.committed b))
    (h : HasEntry n c p w) (hl : Leads (netActions P) w w') : HasEntry n c p w' :=
  hl.keeps (fun h hs => h.step (fun _ a _ _ => hcons a) hincl hs) h

/-- Notes stay in the book. -/
theorem HasEntry.stays {n : Note} {p : NoteStatus → Prop} (h : HasEntry n c p w) (hl : Leads (netActions P) w w') :
    HasEntry n c (fun _ => True) w' := by
  obtain ⟨e, he, hn, hc, -⟩ := h
  exact HasEntry.leads (fun _ _ _ _ => trivial) (fun _ _ => trivial) ⟨e, he, hn, hc, trivial⟩ hl

/-- Who consumes a note is an account that can. -/
theorem consumableBy_step {e : NoteEntry} {x : AccountId} (hs : actionStep P w act w')
    (he : e ∈ w'.chain.notes.entries) (hst : e.status = .consumed x) :
    (∃ e₀ ∈ w.chain.notes.entries, e₀.note = e.note ∧ e₀.status = .consumed x) ∨
      ∃ d ns, act = .submit d x (.consumeNotes ns) ∧ e.note ∈ ns ∧ e.note.consumableBy x = true ∧
        e.note.id ∈ (w.store d).details := by
  cases act with
  | sync d =>
    cases hs
    exact .inl ⟨e, he, rfl, hst⟩
  | deliver c d ids =>
    obtain ⟨-, rfl⟩ := hs
    exact .inl ⟨e, he, rfl, hst⟩
  | track d a =>
    cases hs
    exact .inl ⟨e, he, rfl, hst⟩
  | block incl =>
    cases hs
    obtain ⟨e₀, he₀, hn, -, hst₀ | ⟨-, hst₀⟩⟩ := NoteBook.mem_entries_commit he
    · exact .inl ⟨e₀, he₀, hn.symm, hst₀ ▸ hst⟩
    · rw [hst₀] at hst
      cases hst
  | submit d a req =>
    obtain ⟨-, -, ⟨ns, -, ho⟩ | ⟨ns, rfl, hc⟩⟩ := submit_cases hs
    · rcases ho.mem.1 he with he | ⟨n, -, rfl⟩
      · exact .inl ⟨e, he, rfl, hst⟩
      · cases hst
    · obtain ⟨e₀, he₀, rfl⟩ := hc.mem.1 he
      by_cases hmem : e₀.note ∈ ns
      · simp only [hmem, ↓reduceIte, NoteStatus.consumed.injEq] at hst
        subst hst
        exact .inr ⟨d, ns, rfl, hmem, (hc.committed hmem).1, hc.details _ hmem⟩
      · simp only [hmem, ↓reduceIte] at hst
        exact .inl ⟨e₀, he₀, rfl, hst⟩

/-! ## Details -/

/-- The action does not deliver the details of the note `id` to client `d`. -/
def Undelivered (d : ClientId) (id : NoteId) : NetAction → Prop
  | .deliver _ x ids => x = d → id ∉ ids
  | _ => True

/-- Without a delivery a client learns of a note that is there only if the note is public. -/
theorem details_step {e : NoteEntry} (he : e ∈ w.chain.notes.entries) (hok : Undelivered d e.note.id act)
    (hs : actionStep P w act w') (hid : e.note.id ∈ (w'.store d).details) :
    e.note.noteType = .pub ∨ e.note.id ∈ (w.store d).details := by
  cases act with
  | sync x =>
    cases hs
    rcases mem_sync_details.1 hid with hid | ⟨-, hid⟩
    · exact .inr hid
    · obtain ⟨e', he', heq, -, hpub⟩ := mem_published.1 hid
      rw [NoteBook.entry_unique he' he heq] at hpub
      exact .inl hpub
  | deliver c x ids =>
    obtain ⟨-, rfl⟩ := hs
    rcases mem_delivered_details.1 hid with hold | ⟨hd, hnew⟩
    · exact .inr hold
    · exact absurd hnew (hok hd.symm)
  | track x a =>
    cases hs
    rw [tracking_store.1] at hid
    exact .inr hid
  | block incl =>
    cases hs
    exact .inr hid
  | submit x a req =>
    rcases (submit_cases hs).2.2 with ⟨ns, -, ho⟩ | ⟨ns, -, hc⟩
    · rcases ho.mem_details.1 hid with hid | ⟨-, n, hn, heq⟩
      · exact .inr hid
      · exact absurd (NoteBook.mem_ids he) (heq ▸ ho.fresh n hn)
    · rw [hc.height.2] at hid
      exact .inr hid

theorem details_leads {ok : NetAction → Prop} {e : NoteEntry} (hok : ∀ act, ok act → Undelivered d e.note.id act)
    (he : e ∈ w.chain.notes.entries) (hl : Leads ((netActions P).only ok) w w')
    (hid : e.note.id ∈ (w'.store d).details) : e.note.noteType = .pub ∨ e.note.id ∈ (w.store d).details := by
  have hkept : HasEntry e.note e.creator (fun _ => True) w' ∧
      (e.note.id ∈ (w'.store d).details → e.note.noteType = .pub ∨ e.note.id ∈ (w.store d).details) := by
    refine hl.keeps (P := fun v => HasEntry e.note e.creator (fun _ => True) v ∧
      (e.note.id ∈ (v.store d).details → e.note.noteType = .pub ∨ e.note.id ∈ (w.store d).details)) ?_
      ⟨⟨e, he, rfl, rfl, trivial⟩, .inr⟩
    rintro v act v' ⟨hentry, hback⟩ ⟨hact, hs⟩
    refine ⟨hentry.stays (.step (M := netActions P) hs), fun hid' => ?_⟩
    obtain ⟨e', he', hn', -, -⟩ := hentry
    rcases details_step he' (hn' ▸ hok act hact) hs (hn' ▸ hid') with hpub | hid''
    · exact .inl (hn' ▸ hpub)
    · exact hback (hn' ▸ hid'')
  exact hkept.2 hid

end Invariants

end BraleMiden
