import Mathlib.Data.Finset.Insert
import Mathlib.Data.Finset.Dedup
import BraleMiden.Chain.Client

/-!
# Several clients on one chain

Every client has the accounts it tracks, the ids of the notes whose full details its store holds, and the block it has
synced to. The chain publishes the details of public notes only. A client learns the details of a note by creating it,
by syncing when the note is public and committed, or when another client delivers them; the repository makes no call
that delivers a note. What a client answers about an account is as of its own last transaction, or as of its last sync
if the chain publishes the state of the account.

`netClient P d env` is client `d` of a network: it lists and consumes only committed notes that it knows and has synced
past, for accounts that it tracks.
-/

namespace BraleMiden

open Effects

/-- What one client has. -/
structure Store where
  tracked : Finset AccountId
  /-- the notes whose full details the client has -/
  details : Finset NoteId
  syncedTo : ℕ

/-- The store with the details of `ids` as well. -/
def Store.learn (st : Store) (ids : Finset NoteId) : Store := { st with details := st.details ∪ ids }

/-- The store after a sync to block `h`, with the details published until then. -/
def Store.sync (st : Store) (published : Finset NoteId) (h : ℕ) : Store :=
  { st.learn published with syncedTo := h }

/-- The chain and every client's store. -/
structure Network where
  chain : Chain
  store : ClientId → Store
  /-- the chain as a client last saw it, per account -/
  seen : ClientId → AccountId → Chain

namespace NoteStatus

/-- Committed at block `h` or before. -/
def isCommittedBy (h : ℕ) : NoteStatus → Bool
  | .committed b => decide (b ≤ h)
  | _ => false

end NoteStatus

namespace Network

/-- The committed public notes: the chain publishes their details. -/
def published (w : Network) : Finset NoteId :=
  ((w.chain.notes.entries.filter fun e => e.status.isCommitted && decide (e.note.noteType = .pub)).map
    (·.note.id)).toFinset

/-- The network with another chain state and another store of client `d`. -/
def update (w : Network) (c : Chain) (d : ClientId) (st : Store) : Network :=
  { w with chain := c, store := Function.update w.store d st }

/-- Client `d` has seen `a` as it is. -/
def saw (d : ClientId) (a : AccountId) (w : Network) : Network :=
  { w with seen := Function.update w.seen d (Function.update (w.seen d) a w.chain) }

/-- Client `d` syncs to the last block, and sees the accounts that the chain publishes. -/
def sync (P : Params) (d : ClientId) (w : Network) : Network :=
  { w.update w.chain d ((w.store d).sync w.published w.chain.height) with
    seen := Function.update w.seen d fun a => if P.publishes a then w.chain else w.seen d a }

/-- The committed notes with `p` that client `d` knows and has synced past, for its account `a`. -/
def committed (w : Network) (d : ClientId) (a : AccountId) (p : Note → Bool) : List Note :=
  if a ∈ (w.store d).tracked then
    (w.chain.notes.entries.filter fun e => e.status.isCommittedBy (w.store d).syncedTo && p e.note &&
      decide (e.note.id ∈ (w.store d).details)).map (·.note)
  else []

/-- The notes client `d` can consume for its account `a`. -/
def consumable (w : Network) (d : ClientId) (a : AccountId) : List Note := w.committed d a (Note.consumableBy a)

/-- The notes client `d` lists for its account `a`. -/
def listed (P : Params) (w : Network) (d : ClientId) (a : AccountId) : List Note := w.committed d a (P.lists a)

/-- What a query of client `d` for `a` answers. -/
def records (P : Params) (w : Network) (d : ClientId) (a : AccountId) :
    List (InputNoteRecord × NoteConsumptionStatus) :=
  (w.listed P d a).map fun n => (⟨n⟩, n.statusAt a w.chain.height)

/-- Client `d` keeps the details of the notes it has created. -/
def created (d : ClientId) (ids : Finset NoteId) (c : Chain) (w : Network) : Network :=
  w.update c d ((w.store d).learn ids)

/-- A transaction of client `d`: for an account it tracks, and consuming only notes it knows. The chain refuses one that
starts from an older state of the account; this is left out here, so there are more runs than of the program. -/
def submit (P : Params) (d : ClientId) (a : AccountId) (req : TransactionRequest) (w : Network) :
    Except Error Network :=
  if a ∈ (w.store d).tracked then
    match req with
    | .ownOutputNotes ns => (w.chain.submit P d a req).map fun c =>
      (w.created d (ns.map (·.id)).toFinset c).saw d a
    | .consumeNotes ns =>
      if ∀ n ∈ ns, n.id ∈ (w.store d).details then
        (w.chain.submit P d a req).map fun c => { w with chain := c }.saw d a
      else .error (.msg "note details unknown")
  else .error (.msg "account not tracked")

end Network

/-- Client `d` of a network. A sync shows the blocks there are; it makes none. -/
@[simps] def netClient (P : Params) (d : ClientId) (env : Env) : Client (Session Network) where
  fungibleAssetNew := FungibleAsset.new P
  createBurnNote sender issuer asset := env.read fun w => w.chain.burnNote sender issuer asset
  buildMintFungibleAsset asset target noteType := env.read fun w =>
    .ownOutputNotes [w.chain.payNote asset.faucetId target asset noteType]
  buildPayToId payment noteType := env.consult fun w => w.chain.payRequest payment noteType
  buildOwnOutputNotes notes := env.read fun _ => .ownOutputNotes notes
  buildConsumeNotes notes := env.read fun _ => .consumeNotes notes
  syncState := env.call fun _ w => .ok ((), w.sync P d)
  getConsumableNotes a := env.read fun w => w.records P d a
  converts _ := true
  submitNewTransaction a req := env.call fun _ w => (w.submit P d a req).map fun w' => ((), w')
  getAccount a := env.read fun w =>
    if a ∈ (w.store d).tracked then some (.full ((w.seen d a).account P a)) else none

namespace Network

variable {P : Params} {d c : ClientId} {env : Env} {w w' : Network} {a : AccountId} {n : Note}

/-! ## Stores -/

@[simp] theorem update_chain (s : Chain) (st : Store) : (w.update s d st).chain = s := rfl

@[simp] theorem update_store_self (s : Chain) (st : Store) : (w.update s d st).store d = st := by
  show Function.update w.store d st d = st
  rw [Function.update_self]

theorem update_store_of_ne (h : c ≠ d) (s : Chain) (st : Store) : (w.update s d st).store c = w.store c := by
  show Function.update w.store d st c = w.store c
  rw [Function.update_of_ne h]

@[simp] theorem saw_chain : (w.saw d a).chain = w.chain := rfl

@[simp] theorem saw_store : (w.saw d a).store = w.store := rfl

@[simp] theorem sync_chain (P : Params) (d : ClientId) (w : Network) : (w.sync P d).chain = w.chain := rfl

theorem sync_store (P : Params) (d : ClientId) (w : Network) :
    (w.sync P d).store = Function.update w.store d ((w.store d).sync w.published w.chain.height) := rfl

theorem saw_seen_self : (w.saw d a).seen d a = w.chain := by
  show Function.update w.seen d (Function.update (w.seen d) a w.chain) d a = w.chain
  rw [Function.update_self, Function.update_self]

theorem saw_seen_of_ne {x : AccountId} (h : ¬ (c = d ∧ x = a)) : (w.saw d a).seen c x = w.seen c x := by
  show Function.update w.seen d (Function.update (w.seen d) a w.chain) c x = w.seen c x
  by_cases hc : c = d
  · subst hc
    rw [Function.update_self, Function.update_of_ne fun hx => h ⟨rfl, hx⟩]
  · rw [Function.update_of_ne hc]

theorem sync_seen {x : AccountId} :
    (w.sync P d).seen c x = if c = d ∧ P.publishes x = true then w.chain else w.seen c x := by
  show Function.update w.seen d (fun a => if P.publishes a then w.chain else w.seen d a) c x = _
  by_cases hc : c = d
  · subst hc
    simp [Function.update_self]
  · rw [Function.update_of_ne hc, if_neg fun h => hc h.1]

/-- A sync changes the accounts of no client. -/
theorem sync_tracked : ((w.sync P d).store c).tracked = (w.store c).tracked := by
  by_cases h : c = d
  · subst h
    rw [sync_store, Function.update_self]
    rfl
  · rw [sync_store, Function.update_of_ne h]

/-- A sync adds published details to one store. -/
theorem mem_sync_details {id : NoteId} :
    id ∈ ((w.sync P d).store c).details ↔ id ∈ (w.store c).details ∨ c = d ∧ id ∈ w.published := by
  by_cases h : c = d
  · subst h
    rw [sync_store, Function.update_self]
    simp [Store.sync, Store.learn]
  · rw [sync_store, Function.update_of_ne h]
    simp [h]

/-- Creating notes adds their details to one store. -/
theorem mem_created_details {id : NoteId} {ids : Finset NoteId} {s : Chain} :
    id ∈ ((w.created d ids s).store c).details ↔ id ∈ (w.store c).details ∨ c = d ∧ id ∈ ids := by
  by_cases h : c = d
  · subst h
    rw [created, update_store_self]
    simp [Store.learn]
  · rw [created, update_store_of_ne h]
    simp [h]

theorem mem_committed {p : Note → Bool} : n ∈ w.committed d a p ↔ a ∈ (w.store d).tracked ∧ p n = true ∧
    n.id ∈ (w.store d).details ∧ ∃ e ∈ w.chain.notes.entries, e.note = n ∧
      e.status.isCommittedBy (w.store d).syncedTo = true := by
  unfold committed
  split
  · rename_i ht
    simp only [ht, true_and, List.mem_map, List.mem_filter, Bool.and_eq_true, decide_eq_true_eq]
    constructor
    · rintro ⟨e, ⟨he, ⟨hs, hc⟩, hk⟩, rfl⟩
      exact ⟨hc, hk, e, he, rfl, hs⟩
    · rintro ⟨hc, hk, e, he, rfl, hs⟩
      exact ⟨e, ⟨he, ⟨hs, hc⟩, hk⟩, rfl⟩
  · rename_i ht
    simp [ht]

theorem mem_consumable : n ∈ w.consumable d a ↔ a ∈ (w.store d).tracked ∧ n.consumableBy a = true ∧
    n.id ∈ (w.store d).details ∧ ∃ e ∈ w.chain.notes.entries, e.note = n ∧
      e.status.isCommittedBy (w.store d).syncedTo = true := mem_committed

/-- A client lists notes only for accounts that it tracks. -/
theorem tracked_of_listed (h : w.listed P d a ≠ []) : a ∈ (w.store d).tracked := by
  obtain ⟨n, hn⟩ := List.exists_mem_of_ne_nil _ h
  exact (mem_committed.1 hn).1

/-! ## Transactions of a client -/

/-- Client `c` has paid with the note `n`, for its account `a`. -/
def Pays (c : ClientId) (a : AccountId) (n : Note) (w w' : Network) : Prop :=
  Chain.Outputs c a n w.chain w'.chain ∧ w' = (w.created c {n.id} w'.chain).saw c a

/-- What an accepted transaction changes: the chain, what its client has, and what its client has seen. -/
theorem submit_ok {req : TransactionRequest} (h : w.submit P c a req = .ok w') :
    a ∈ (w.store c).tracked ∧ w.chain.submit P c a req = .ok w'.chain ∧
      ((∃ ns, req = .ownOutputNotes ns ∧ w' = (w.created c (ns.map (·.id)).toFinset w'.chain).saw c a) ∨
        ∃ ns, req = .consumeNotes ns ∧ (∀ n ∈ ns, n.id ∈ (w.store c).details) ∧
          w' = { w with chain := w'.chain }.saw c a) := by
  unfold submit at h
  split at h
  · rename_i ha
    cases hs : w.chain.submit P c a req with
    | error e =>
      cases req with
      | ownOutputNotes ns =>
        simp only [hs] at h
        cases h
      | consumeNotes ns =>
        simp only [hs] at h
        split at h <;> cases h
    | ok s =>
      cases req with
      | ownOutputNotes ns =>
        simp only [hs] at h
        cases h
        exact ⟨ha, rfl, .inl ⟨ns, rfl, rfl⟩⟩
      | consumeNotes ns =>
        simp only [hs] at h
        split at h
        · rename_i hknown
          cases h
          exact ⟨ha, rfl, .inr ⟨ns, rfl, hknown, rfl⟩⟩
        · cases h
  · cases h

theorem submit_output_ok (h : w.submit P c a (.ownOutputNotes [n]) = .ok w') : Pays c a n w w' := by
  obtain ⟨-, hs, ⟨ns, hreq, hw'⟩ | ⟨ns, hreq, -⟩⟩ := submit_ok h
  · cases hreq
    exact ⟨Chain.submit_output_iff.1 hs, hw'⟩
  · cases hreq

theorem submit_consume_ok {ns : List Note} (h : w.submit P c a (.consumeNotes ns) = .ok w') :
    Chain.consume P a w.chain ns = .ok w'.chain :=
  (Chain.submit_consume.1 (submit_ok h).2.1).2

theorem netClient_submit_ok {s s' : Session Network} {req : TransactionRequest}
    (h : Op.run ((netClient P c env).submitNewTransaction a req) s = (.ok (), s')) :
    s.state.submit P c a req = .ok s'.state := by
  rw [netClient_submitNewTransaction] at h
  obtain ⟨-, w', hs, rfl⟩ := Env.run_call_ok.1 h
  cases hsub : s.state.submit P c a req with
  | error e =>
    rw [hsub] at hs
    cases hs
  | ok w =>
    rw [hsub] at hs
    cases hs
    rfl

/-- Building, and a refused submission, have no effect on the network. -/
theorem netClient_submitFailsKeep : (netClient P c env).SubmitFailsKeep (OnState Eq) where
  createBurnNote _ _ _ := Env.read_keeps _
  buildMintFungibleAsset _ _ _ := Env.read_keeps _
  buildPayToId _ _ := Env.consult_keeps _
  buildOwnOutputNotes _ := Env.read_keeps _
  buildConsumeNotes _ := Env.read_keeps _
  submitNewTransaction a req s s' e h := by
    rw [netClient_submitNewTransaction] at h
    exact (Env.run_call_error h).symm

end Network

end BraleMiden
