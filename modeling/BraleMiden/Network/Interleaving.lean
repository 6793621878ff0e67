import BraleMiden.Network.Delivery
import BraleMiden.Network.Actions

/-!
# Operations while others act

`busyClient` is a client of the network when, before each of its SDK calls, other processes act: any sequence of actions
of any clients, this one among them, and blocks. So the calls of several operations interleave in any way.

* `busyClient_keeps`: an operation, however it ends, is a sequence of actions, its own and those of the others;
* `consumeNotes_takes_iff`: which notes `consume_notes` takes;
* `payment_strands`: what is paid to an account of another client waits until somebody delivers the details of its note;
* `burn_elsewhere`: a burn at a client that does not have the issuer never ends well, and leaves a note that the
  issuer's client consumes.
-/

namespace BraleMiden

open Effects Systems Network

/-- What the others do before each call is a sequence of actions. -/
def Meanwhile (P : Params) (others : ℕ → Network → Network) : Prop := ∀ k w, Leads (netActions P) w (others k w)

/-- What the others do before each call is a sequence of actions of one kind. -/
def MeanwhileOnly (P : Params) (ok : NetAction → Prop) (others : ℕ → Network → Network) : Prop :=
  ∀ k w, Leads ((netActions P).only ok) w (others k w)

/-- The action is no transaction of `x`. -/
def NotBy (x : AccountId) : NetAction → Prop
  | .submit _ a _ => a ≠ x
  | _ => True

/-- Client `d` of a network while the others act. -/
def busyClient (P : Params) (d : ClientId) (env : Env) (others : ℕ → Network → Network) : Client (Session Network) :=
  (netClient P d env).interleaved (Session.meanwhile others)

/-- The issuer, the payee and the amount of a payment. -/
def TokenCall.payee : TokenCall → Option (AccountId × AccountId × ℕ)
  | .mint i t n => some (i, t, n)
  | .transfer _ rcp i n => some (i, rcp, n)
  | _ => none

section Interleaving

variable {P : Params} {c d : ClientId} {env : Env} {others : ℕ → Network → Network} {w w' : Network}
  {ok : NetAction → Prop} {s s' : Session Network} {a : AccountId} {n : Note} {call : TokenCall}

/-! ## Calls of a busy client -/

theorem netClient_buildKeeps {R : Network → Network → Prop} [IsPreorder Network R] :
    (netClient P d env).BuildKeeps (OnState R) where
  createBurnNote _ _ _ := Env.read_keeps _
  buildMintFungibleAsset _ _ _ := Env.read_keeps _
  buildPayToId _ _ := Env.consult_keeps _
  buildOwnOutputNotes _ := Env.read_keeps _
  buildConsumeNotes _ := Env.read_keeps _

/-- A submission keeps what it keeps when it is accepted. -/
theorem netClient_submit_keeps {R : Network → Network → Prop} [IsPreorder Network R] {req : TransactionRequest}
    (hsubmit : ∀ {w w'}, Network.submit P d a req w = .ok w' → R w w') :
    Keeps (OnState R) ((netClient P d env).submitNewTransaction a req) := by
  rw [netClient_submitNewTransaction]
  refine Env.call_keeps fun {k w x w'} h => ?_
  cases hs : w.submit P d a req with
  | error e =>
    rw [hs] at h
    cases h
  | ok v =>
    rw [hs] at h
    cases h
    exact hsubmit hs

theorem netClient_keeps {R : Network → Network → Prop} [IsPreorder Network R] (hsync : ∀ w, R w (w.sync P d))
    (hsubmit : ∀ {w w' a req}, Network.submit P d a req w = .ok w' → R w w') :
    (netClient P d env).Keeps (OnState R) where
  toPollKeeps := netClient_pollKeeps hsync
  toBuildKeeps := netClient_buildKeeps
  submitNewTransaction _ _ := netClient_submit_keeps hsubmit

/-- **Every call of a busy client is a sequence of actions.** -/
theorem busyClient_keeps (ho : Meanwhile P others) :
    (busyClient P d env others).Keeps (OnState (Leads (netActions P))) := by
  have hclient : (netClient P d env).Keeps (OnState (Leads (netActions P))) :=
    netClient_keeps (fun w => .step (l := .sync d) rfl) fun {w w' a req} h => .step (l := .submit d a req) h
  exact hclient.interleaved fun s => ho s.calls s.state

theorem Meanwhile.only (ho : Meanwhile P others) : MeanwhileOnly P (fun _ => True) others :=
  fun k w => (ho k w).to_only fun _ => trivial

theorem MeanwhileOnly.all (ho : MeanwhileOnly P ok others) : Meanwhile P others := fun k w => (ho k w).of_only

/-- What the others do before a call. -/
theorem MeanwhileOnly.meanwhile (ho : MeanwhileOnly P ok others) (s : Session Network) :
    OnState (Leads ((netActions P).only ok)) s (s.meanwhile others) := ho s.calls s.state

theorem busyClient_pollKeeps (ho : MeanwhileOnly P ok others) (hsync : ok (.sync d)) :
    (busyClient P d env others).PollKeeps (OnState (Leads ((netActions P).only ok))) := by
  have hpoll : (netClient P d env).PollKeeps (OnState (Leads ((netActions P).only ok))) :=
    netClient_pollKeeps fun w => .step (l := .sync d) ⟨hsync, rfl⟩
  exact hpoll.interleaved ho.meanwhile

theorem busyClient_buildKeeps (ho : MeanwhileOnly P ok others) :
    (busyClient P d env others).BuildKeeps (OnState (Leads ((netActions P).only ok))) :=
  netClient_buildKeeps.interleaved ho.meanwhile

theorem busyClient_submit_keeps {req : TransactionRequest} (ho : MeanwhileOnly P ok others)
    (hok : ok (.submit d a req)) :
    Keeps (OnState (Leads ((netActions P).only ok))) ((busyClient P d env others).submitNewTransaction a req) := by
  refine Effects.Keeps.after (f := Session.meanwhile others) ho.meanwhile (netClient_submit_keeps fun hs => ?_)
  exact .step (l := .submit d a req) ⟨hok, hs⟩

theorem busyClient_syncState (h : Op.run (busyClient P d env others).syncState s = (.ok (), s')) :
    s'.state = (others s.calls s.state).sync P d := by
  rw [busyClient, Client.interleaved_syncState, Op.run_after, netClient_syncState] at h
  obtain ⟨-, w, hw, rfl⟩ := Env.run_call_ok.1 h
  cases hw
  rfl

theorem busyClient_getConsumableNotes {l : List (InputNoteRecord × NoteConsumptionStatus)}
    (h : Op.run ((busyClient P d env others).getConsumableNotes a) s = (.ok l, s')) :
    l = (others s.calls s.state).records P d a ∧ s'.state = others s.calls s.state := by
  rw [busyClient, Client.interleaved_getConsumableNotes, Op.run_after, netClient_getConsumableNotes] at h
  obtain ⟨-, rfl, rfl⟩ := Env.run_read_ok.1 h
  exact ⟨rfl, rfl⟩

theorem busyClient_buildConsumeNotes {ns : List Note} {req : TransactionRequest}
    (h : Op.run ((busyClient P d env others).buildConsumeNotes ns) s = (.ok req, s')) : req = .consumeNotes ns := by
  rw [busyClient, Client.interleaved_buildConsumeNotes, Op.run_after, netClient_buildConsumeNotes] at h
  obtain ⟨-, rfl, -⟩ := Env.run_read_ok.1 h
  rfl

theorem busyClient_buildMintFungibleAsset {asset : FungibleAsset} {t : AccountId} {nt : NoteType}
    {req : TransactionRequest}
    (h : Op.run ((busyClient P d env others).buildMintFungibleAsset asset t nt) s = (.ok req, s')) :
    req = .ownOutputNotes [(others s.calls s.state).chain.payNote asset.faucetId t asset nt] := by
  rw [busyClient, Client.interleaved_buildMintFungibleAsset, Op.run_after, netClient_buildMintFungibleAsset] at h
  obtain ⟨-, rfl, -⟩ := Env.run_read_ok.1 h
  rfl

theorem busyClient_buildPayToId {payment : PaymentNoteDescription} {nt : NoteType} {req : TransactionRequest}
    (h : Op.run ((busyClient P d env others).buildPayToId payment nt) s = (.ok req, s')) :
    req = .ownOutputNotes [(others s.calls s.state).chain.payNote payment.sender payment.target payment.asset nt] := by
  rw [busyClient, Client.interleaved_buildPayToId, Op.run_after, netClient_buildPayToId] at h
  obtain ⟨-, hreq, -⟩ := Env.run_consult_ok.1 h
  exact (Chain.payRequest_ok.1 hreq).2

theorem busyClient_createBurnNote {snd i : AccountId} {asset : FungibleAsset} {note : Note}
    (h : Op.run ((busyClient P d env others).createBurnNote snd i asset) s = (.ok note, s')) :
    note = (others s.calls s.state).chain.burnNote snd i asset := by
  rw [busyClient, Client.interleaved_createBurnNote, Op.run_after, netClient_createBurnNote] at h
  obtain ⟨-, rfl, -⟩ := Env.run_read_ok.1 h
  rfl

theorem busyClient_buildOwnOutputNotes {notes : List Note} {req : TransactionRequest}
    (h : Op.run ((busyClient P d env others).buildOwnOutputNotes notes) s = (.ok req, s')) :
    req = .ownOutputNotes notes := by
  rw [busyClient, Client.interleaved_buildOwnOutputNotes, Op.run_after, netClient_buildOwnOutputNotes] at h
  obtain ⟨-, rfl, -⟩ := Env.run_read_ok.1 h
  rfl

theorem busyClient_submit {req : TransactionRequest}
    (h : Op.run ((busyClient P d env others).submitNewTransaction a req) s = (.ok (), s')) :
    (others s.calls s.state).submit P d a req = .ok s'.state :=
  netClient_submit_ok h

theorem busyClient_tryInto (r : InputNoteRecord) :
    (busyClient P d env others).tryInto r = (netClient P d env).tryInto r := rfl

/-- A transaction of the request that a call has built, later, by a client that tracks the account. -/
theorem submit_after {build : Op (Session Network) Error TransactionRequest} {req : TransactionRequest}
    {s₁ : Session Network} (ho : MeanwhileOnly P ok others)
    (hbuild : Keeps (OnState (Leads ((netActions P).only ok))) build) (hreq : Op.run build s = (.ok req, s₁))
    (h : Op.run ((busyClient P d env others).submitNewTransaction a req) s₁ = (.ok (), s')) :
    ∃ v, Leads ((netActions P).only ok) s.state v ∧ v.submit P d a req = .ok s'.state :=
  ⟨_, trans_of (Leads ((netActions P).only ok)) (hbuild.of_run hreq) (ho s₁.calls s₁.state), busyClient_submit h⟩

/-! ## Notes that a client consumes next -/

/-- The note is committed at `b`, and client `d` has its details and has synced past `b`. -/
structure Listed (n : Note) (c d : ClientId) (b : ℕ) (w : Network) : Prop where
  entry : HasEntry n c (· = .committed b) w
  synced : b ≤ (w.store d).syncedTo
  details : n.id ∈ (w.store d).details

/-- The note is listed, or consumed already. -/
def Due (n : Note) (c d : ClientId) (b : ℕ) (w : Network) : Prop :=
  HasEntry n c (·.isConsumed = true) w ∨ Listed n c d b w

theorem HasEntry.isConsumed (h : HasEntry n c (·.isConsumed = true) w) : w.chain.notes.IsConsumed n := by
  obtain ⟨e, he, hn, -, hs⟩ := h
  exact ⟨e, he, hn, hs⟩

theorem HasEntry.isConsumed_leads (h : HasEntry n c (·.isConsumed = true) w) (hl : Leads (netActions P) w w') :
    HasEntry n c (·.isConsumed = true) w' :=
  h.leads (fun _ _ _ _ => rfl) (fun hp => nomatch hp) hl

/-- A note that was committed stays so, or is consumed. -/
theorem HasEntry.committed_leads {b : ℕ} (h : HasEntry n c (fun st => st.isConsumed = true ∨ st = .committed b) w)
    (hl : Leads (netActions P) w w') : HasEntry n c (fun st => st.isConsumed = true ∨ st = .committed b) w' :=
  h.leads (fun _ _ _ _ => .inl rfl) (fun hp => hp.elim (fun hp => nomatch hp) fun hp => nomatch hp) hl

/-- Clients forget no details, and sync forwards. -/
theorem store_step {act : NetAction} (hi : Informed w) (hs : actionStep P w act w') :
    (w.store d).syncedTo ≤ (w'.store d).syncedTo ∧ (w.store d).details ⊆ (w'.store d).details := by
  cases act with
  | sync x =>
    cases hs
    refine ⟨?_, fun id hid => mem_sync_details.2 (.inl hid)⟩
    rw [sync_syncedTo]
    split
    · exact hi.syncedTo_le d
    · exact Nat.le_refl _
  | deliver x y ids =>
    obtain ⟨-, rfl⟩ := hs
    exact ⟨delivered_store.2.ge, fun id hid => mem_delivered_details.2 (.inl hid)⟩
  | track x a =>
    cases hs
    rw [tracking_store.1, tracking_store.2]
    exact ⟨Nat.le_refl _, subset_refl _⟩
  | block incl =>
    cases hs
    exact ⟨Nat.le_refl _, subset_refl _⟩
  | submit x a req =>
    rcases (submit_cases hs).2.2 with ⟨ns, -, ho⟩ | ⟨ns, -, hc⟩
    · refine ⟨?_, fun id hid => ho.mem_details.2 (.inl hid)⟩
      rw [ho.store_eq.2]
    · rw [hc.height.2]
      exact ⟨Nat.le_refl _, subset_refl _⟩

theorem details_subset_leads (hw : Orderly P w) (hl : Leads (netActions P) w w') :
    (w.store d).details ⊆ (w'.store d).details := by
  refine (hl.keeps (P := fun v => Orderly P v ∧ (w.store d).details ⊆ (v.store d).details) ?_ ⟨hw, subset_refl _⟩).2
  rintro v act v' ⟨hv, hsub⟩ hs
  exact ⟨hv.step hs, hsub.trans (store_step hv.informed hs).2⟩

theorem Due.step {b : ℕ} {act : NetAction} (hi : Informed w) (h : Due n c d b w) (hs : actionStep P w act w') :
    Due n c d b w' := by
  rcases h with hcons | hl
  · exact .inl (hcons.isConsumed_leads (.step (M := netActions P) hs))
  · obtain ⟨e, he, hn, hc, hst⟩ := hl.entry
    have hentry : HasEntry n c (fun st => st.isConsumed = true ∨ st = .committed b) w' :=
      HasEntry.committed_leads ⟨e, he, hn, hc, .inr hst⟩ (.step (M := netActions P) hs)
    obtain ⟨e', he', hn', hc', hst' | hst'⟩ := hentry
    · exact .inl ⟨e', he', hn', hc', hst'⟩
    · obtain ⟨hle, hsub⟩ := store_step hi hs
      exact .inr ⟨⟨e', he', hn', hc', hst'⟩, hl.synced.trans hle, hsub hl.details⟩

theorem Due.leads {b : ℕ} (hw : Orderly P w) (h : Due n c d b w) (hl : Leads (netActions P) w w') : Due n c d b w' :=
  (hl.keeps (P := fun v => Orderly P v ∧ Due n c d b v) (fun h hs => ⟨h.1.step hs, h.2.step h.1.informed hs⟩) ⟨hw, h⟩).2

/-- A sync lists the committed notes that are public or whose details the client has. -/
theorem Due.of_sync {b : ℕ} (hw : Informed w)
    (h : HasEntry n c (fun st => st.isConsumed = true ∨ st = .committed b) w)
    (hvis : n.noteType = .pub ∨ n.id ∈ (w.store d).details) : Due n c d b (w.sync P d) := by
  obtain ⟨e, he, rfl, rfl, hst | hst⟩ := h
  · exact .inl ⟨e, he, rfl, rfl, hst⟩
  · refine .inr ⟨⟨e, he, rfl, rfl, hst⟩, ?_, ?_⟩
    · rw [sync_syncedTo, if_pos rfl]
      exact hw.block_le e he b hst
    · rw [mem_sync_details]
      rcases hvis with hpub | hid
      · exact .inr ⟨rfl, mem_published.2 ⟨e, he, rfl, by rw [hst]; rfl, hpub⟩⟩
      · exact .inl hid

/-! ## Consuming while others act -/

/-- The transaction behind a consumption that ends well. The last sync comes before the last query, and that before the
transaction; the others act in between. -/
theorem consumeAvailable_busy {t : ConsumeTexts} (ho : MeanwhileOnly P ok others) (hok : ok (.sync d))
    (h : Op.run (consumeAvailable (busyClient P d env others) t a) s = (.ok (), s')) :
    ∃ v₀ v₁ v₂, Leads ((netActions P).only ok) s.state v₀ ∧ Leads ((netActions P).only ok) (v₀.sync P d) v₁ ∧
      Leads ((netActions P).only ok) v₁ v₂ ∧ a ∈ (v₁.store d).tracked ∧
        v₂.submit P d a (.consumeNotes (v₁.listed P d a)) = .ok s'.state := by
  have hpoll : (busyClient P d env others).PollKeeps (OnState (Leads ((netActions P).only ok))) :=
    busyClient_pollKeeps ho hok
  have hbk : (busyClient P d env others).BuildKeeps (OnState (Leads ((netActions P).only ok))) :=
    busyClient_buildKeeps ho
  obtain ⟨s₁, l, s₂, req, s₃, hloop, hquery, hbuild, hsub⟩ := consumeAvailable_ok.1 h
  obtain ⟨u₁, u₂, l', hlead, hsync, hseen, hne⟩ := pollLoop_ok hpoll hloop
  obtain ⟨rfl, hs₂⟩ := busyClient_getConsumableNotes hquery
  obtain ⟨rfl, hs₁⟩ := busyClient_getConsumableNotes hseen
  have hreq : req = .consumeNotes ((others s₁.calls s₁.state).listed P d a) := by
    rw [busyClient_buildConsumeNotes hbuild]
    simp only [busyClient_tryInto, netClient_filterMap]
  have hlate : Leads ((netActions P).only ok) s₁.state (others s₁.calls s₁.state) := ho _ _
  -- the loop has seen a note, so the account is tracked
  have htracked : a ∈ (s₁.state.store d).tracked := by
    rw [hs₁]
    refine tracked_of_listed (P := P) fun hnil => hne ?_
    rw [records, hnil, List.map_nil]
  have hmid : Leads ((netActions P).only ok) u₂.state (others s₁.calls s₁.state) :=
    trans_of (Leads ((netActions P).only ok)) ((hpoll.getConsumableNotes a).of_run hseen) hlate
  have hearly : Leads ((netActions P).only ok) s.state (others u₁.calls u₁.state) :=
    trans_of (Leads ((netActions P).only ok)) hlead (ho _ _)
  rw [busyClient_syncState hsync] at hmid
  obtain ⟨v₂, hv₂, hsubmit⟩ := submit_after ho (hbk.buildConsumeNotes _) hbuild hsub
  rw [hs₂] at hv₂
  rw [hreq] at hsubmit
  exact ⟨_, _, v₂, hearly, hmid, hv₂, tracked_leads hlate.of_only htracked, hsubmit⟩

/-- Every note that was committed when the call began, and is public or known to the client, is consumed in the end. -/
theorem consumeAvailable_collects {t : ConsumeTexts} {b : ℕ} (hw : Orderly P s.state) (ho : Meanwhile P others)
    (hn : HasEntry n c (· = .committed b) s.state) (hby : n.consumableBy a = true)
    (hvis : n.noteType = .pub ∨ n.id ∈ (s.state.store d).details)
    (h : Op.run (consumeAvailable (busyClient P d env others) t a) s = (.ok (), s')) :
    s'.state.chain.notes.IsConsumed n := by
  obtain ⟨v₀, v₁, v₂, h₀, h₁, h₂, htracked, hsubmit⟩ := consumeAvailable_busy ho.only trivial h
  have hw₀ := hw.leads h₀.of_only
  have hw₁ : Orderly P (v₀.sync P d) := hw₀.step (show actionStep P v₀ (.sync d) (v₀.sync P d) from rfl)
  have hentry : HasEntry n c (fun st => st.isConsumed = true ∨ st = .committed b) v₀ := by
    obtain ⟨e, he, hn, hc, hst⟩ := hn
    exact HasEntry.committed_leads ⟨e, he, hn, hc, .inr hst⟩ h₀.of_only
  have hvis₀ : n.noteType = .pub ∨ n.id ∈ (v₀.store d).details :=
    hvis.imp_right fun hid => details_subset_leads hw h₀.of_only hid
  rcases (Due.of_sync hw₀.informed hentry hvis₀).leads hw₁ h₁.of_only with hcons | hlisted
  · have hlast : Leads (netActions P) v₂ s'.state := .step (l := .submit d a _) hsubmit
    exact (hcons.isConsumed_leads (trans_of (Leads (netActions P)) h₂.of_only hlast)).isConsumed
  · obtain ⟨-, -, ⟨ns, hreq, -⟩ | ⟨ns, hreq, hc⟩⟩ := submit_cases hsubmit
    · cases hreq
    · cases hreq
      -- the note is in the list of the last query, and all of the list is consumed
      have hentry₂ := hlisted.entry.stays h₂.of_only
      obtain ⟨e, he, rfl, -, hst⟩ := hlisted.entry
      have hmem : e.note ∈ v₁.listed P d a := by
        refine mem_committed.2 ⟨htracked, P.complete hby, hlisted.details, e, he, rfl, ?_⟩
        rw [hst]
        exact decide_eq_true hlisted.synced
      obtain ⟨e₂, he₂, hn₂, -, -⟩ := hentry₂
      refine ⟨_, hc.mem.2 ⟨e₂, he₂, rfl⟩, hn₂, ?_⟩
      simp [hn₂, hmem, NoteStatus.isConsumed]

/-! ## Outputs while others act -/

/-- The note that an output transaction leaves is new and pending. -/
theorem Network.OutputBy.hasEntry (h : OutputBy d [n] w w') : HasEntry n d (· = .pending) w' :=
  ⟨_, h.mem.2 (.inr ⟨n, List.mem_singleton_self n, rfl⟩), rfl, rfl, rfl⟩

theorem submit_output_one (h : w.submit P d a (.ownOutputNotes [n]) = .ok w') : OutputBy d [n] w w' := by
  obtain ⟨-, -, ⟨ns, hreq, ho⟩ | ⟨ns, hreq, -⟩⟩ := submit_cases h
  · cases hreq
    exact ho
  · cases hreq

/-- A payment that ends well leaves a private note with its amount for its payee. -/
theorem payment_busy {i t : AccountId} {amount : ℕ} (ho : Meanwhile P others) (hp : call.payee = some (i, t, amount))
    (h : Op.run (call.op (busyClient P d env others)) s = (.ok (), s')) :
    ∃ n v, n.asset = ⟨i, amount⟩ ∧ n.target = t ∧ n.noteType = .priv ∧ n.script = .p2id ∧
      Leads (netActions P) s.state v ∧ OutputBy d [n] v s'.state := by
  have hbk : (busyClient P d env others).BuildKeeps (OnState (Leads ((netActions P).only fun _ => True))) :=
    busyClient_buildKeeps ho.only
  cases call with
  | mint i t amount =>
    cases hp
    obtain ⟨asset, req, s₁, hasset, hbuild, hsub⟩ := mintTokens_ok.1 h
    obtain ⟨-, -, rfl⟩ := FungibleAsset.new_ok.1 hasset
    obtain ⟨v, hv, hsubmit⟩ := submit_after ho.only (hbk.buildMintFungibleAsset _ _ _) hbuild hsub
    obtain rfl := busyClient_buildMintFungibleAsset hbuild
    exact ⟨_, v, rfl, rfl, rfl, rfl, hv.of_only, submit_output_one hsubmit⟩
  | transfer snd rcp i amount =>
    cases hp
    obtain ⟨asset, req, s₁, hasset, hbuild, hsub⟩ := transferTokens_ok.1 h
    obtain ⟨-, -, rfl⟩ := FungibleAsset.new_ok.1 hasset
    obtain ⟨v, hv, hsubmit⟩ := submit_after ho.only (hbk.buildPayToId _ _) hbuild hsub
    obtain rfl := busyClient_buildPayToId hbuild
    exact ⟨_, v, rfl, rfl, rfl, rfl, hv.of_only, submit_output_one hsubmit⟩
  | consume a => cases hp
  | burn snd i amount => cases hp

/-- The first step of a burn leaves a public burn note with its amount for the issuer. -/
theorem createBurnOutput_busy {snd i : AccountId} {amount : ℕ} (ho : Meanwhile P others)
    (h : Op.run (createBurnOutput (busyClient P d env others) snd i amount) s = (.ok (), s')) :
    ∃ n v, n.asset = ⟨i, amount⟩ ∧ n.target = i ∧ n.noteType = .pub ∧ n.consumableBy i = true ∧
      Leads (netActions P) s.state v ∧ v.submit P d snd (.ownOutputNotes [n]) = .ok s'.state := by
  have hbk : (busyClient P d env others).BuildKeeps (OnState (Leads ((netActions P).only fun _ => True))) :=
    busyClient_buildKeeps ho.only
  obtain ⟨asset, note, s₁, req, s₂, hasset, hnote, hbuild, hsub⟩ := createBurnOutput_ok.1 h
  obtain ⟨hi, -, rfl⟩ := FungibleAsset.new_ok.1 hasset
  have hlead : Leads (netActions P) s.state s₁.state := ((hbk.createBurnNote _ _ _).of_run hnote).of_only
  obtain ⟨v, hv, hsubmit⟩ := submit_after ho.only (hbk.buildOwnOutputNotes _) hbuild hsub
  obtain rfl := busyClient_createBurnNote hnote
  obtain rfl := busyClient_buildOwnOutputNotes hbuild
  refine ⟨_, v, rfl, rfl, rfl, ?_, trans_of (Leads (netActions P)) hlead hv.of_only, hsubmit⟩
  simp [Note.consumableBy, Chain.burnNote, hi]

/-- An operation that ends well acts for accounts that its client tracks, and has tracked from the beginning if it does
not start to track them meanwhile. -/
theorem ok_tracked {x : AccountId} (ho : MeanwhileOnly P (· ≠ .track d x) others) (hx : x ∈ call.authorisers)
    (h : Op.run (call.op (busyClient P d env others)) s = (.ok (), s')) : x ∈ (s.state.store d).tracked := by
  have hk : (busyClient P d env others).Keeps (OnState (Leads ((netActions P).only (· ≠ .track d x)))) :=
    { toPollKeeps := busyClient_pollKeeps ho (by simp), toBuildKeeps := busyClient_buildKeeps ho,
      submitNewTransaction := fun _ _ => busyClient_submit_keeps ho (by simp) }
  obtain ⟨req, s₁, s₂, hl, hsub⟩ := TokenCall.submits_from hk h x hx
  have hlead : Leads ((netActions P).only (· ≠ .track d x)) s.state (others s₁.calls s₁.state) :=
    trans_of (Leads ((netActions P).only (· ≠ .track d x))) hl (ho s₁.calls s₁.state)
  by_contra hnot
  exact notMem_tracked_leads (fun hne => hne rfl) hlead hnot (submit_cases (busyClient_submit hsub)).1

/-! ## Notes whose details stay with their creator -/

/-- The action brings neither the details of the note `id` to another client, nor the account `t` to client `c`. -/
def Withheld (id : NoteId) (c : ClientId) (t : AccountId) : NetAction → Prop
  | .deliver _ _ ids => id ∉ ids
  | .track d a => d = c → a ≠ t
  | _ => True

/-- The note is not consumed, and nobody has its details but client `c`, which does not track the target. -/
structure Kept (n : Note) (c : ClientId) (w : Network) : Prop where
  entry : HasEntry n c (·.isConsumed = false) w
  details : ∀ d, n.id ∈ (w.store d).details → d = c
  tracked : n.target ∉ (w.store c).tracked

theorem Withheld.undelivered {id : NoteId} {t : AccountId} {act : NetAction} (h : Withheld id c t act)
    (d : ClientId) : Undelivered d id act := by
  cases act with
  | deliver _ _ ids => exact fun _ => h
  | submit _ _ _ => trivial
  | sync _ => trivial
  | track _ _ => trivial
  | block _ => trivial

/-- Who consumes a private note has its details, for an account that it tracks. -/
theorem Kept.step {act : NetAction} (hpriv : n.noteType = .priv) (hscript : n.script.isP2ide = false)
    (h : Kept n c w) (hact : Withheld n.id c n.target act) (hs : actionStep P w act w') : Kept n c w' := by
  obtain ⟨e, he, hn, hc, hst⟩ := h.entry
  refine ⟨?_, ?_, ?_⟩
  · obtain ⟨e', he', hn', hc', -⟩ := h.entry.stays (.step (M := netActions P) hs)
    refine ⟨e', he', hn', hc', ?_⟩
    rcases hst' : e'.status with _ | b | x
    · rfl
    · rfl
    · rcases consumableBy_step hs he' hst' with ⟨e₀, he₀, hn₀, hst₀⟩ | ⟨d, ns, rfl, -, hby, hid⟩
      · rw [NoteBook.entry_unique he₀ he (by rw [hn₀, hn', hn])] at hst₀
        rw [hst₀] at hst
        cases hst
      · rw [hn'] at hby hid
        obtain rfl := h.details d hid
        have htarget := Note.target_of_consumableBy hby hscript
        exact absurd (htarget ▸ (submit_cases hs).1) h.tracked
  · intro d hid
    subst hn
    rcases details_step he (hact.undelivered d) hs hid with hpub | hid
    · rw [hpriv] at hpub
      cases hpub
    · exact h.details d hid
  · intro hmem
    rcases (mem_tracked_step hs).1 hmem with hmem | rfl
    · exact h.tracked hmem
    · exact hact rfl rfl

theorem Kept.leads (hpriv : n.noteType = .priv) (hscript : n.script.isP2ide = false) (h : Kept n c w)
    (hl : Leads ((netActions P).only (Withheld n.id c n.target)) w w') : Kept n c w' := by
  refine hl.keeps (P := Kept n c) ?_ h
  rintro v act v' hv ⟨hact, hs⟩
  exact hv.step hpriv hscript hact hs

theorem Kept.mem_unconsumed (h : Kept n c w) : n ∈ w.chain.notes.unconsumed := by
  obtain ⟨e, he, hn, -, hst⟩ := h.entry
  exact NoteBook.mem_unconsumed.2 ⟨e, he, hn, hst⟩

/-- Such a note is listed nowhere. -/
theorem Kept.notMem_listed (hscript : n.script.isP2ide = false) (h : Kept n c w) (d : ClientId) (a : AccountId) :
    n ∉ w.listed P d a := by
  intro hmem
  obtain ⟨htracked, hlists, hid, -⟩ := mem_committed.1 hmem
  obtain rfl := h.details d hid
  rcases P.relevant hlists with rfl | ⟨hp, -⟩
  · exact h.tracked htracked
  · rw [hscript] at hp
    cases hp

/-- All accounts together have at most what was issued and is not in an unconsumed note. -/
theorem Orderly.balances_le (h : Orderly P w) (hn : n ∈ w.chain.notes.unconsumed) (f : AccountId) :
    ∑ a ∈ w.chain.accounts, w.chain.vault a f + n.value f ≤ w.chain.issuance f := by
  have hle : n.value f ≤ (w.chain.notes.unconsumed.map fun m => m.value f).sum :=
    List.single_le_sum (fun _ _ => Nat.zero_le _) _ (List.mem_map_of_mem hn)
  rw [h.sound.value_apply f]
  omega

/-! ## Whole executions -/

/-- The action is no transaction of `a`, and delivers nothing to client `d`. -/
def LeavesAlone (a : AccountId) (d : ClientId) (act : NetAction) : Prop :=
  NotBy a act ∧ ∀ id, Undelivered d id act

/-- **What `consume_notes` takes, whatever the others do meanwhile**, as long as they make no transaction of the account
`a` and deliver nothing to the client `d` that consumes for it. When it ends well, `a` has consumed a note that was
committed when it began if and only if `a` can consume notes of its kind, the note is public or `d` had its details, and
no other account has consumed it. -/
theorem consumeNotes_takes_iff {k : ℕ} (hw : Reachable (netActions P) w) (ho : MeanwhileOnly P (LeavesAlone a d) others)
    (hrun : Op.run (consumeNotes (busyClient P d env others) a) ⟨w, k⟩ = (.ok (), s')) :
    ∀ e ∈ w.chain.notes.entries, e.status.isCommitted = true →
      (s'.state.chain.notes.IsConsumedBy a e.note ↔ e.note.consumableBy a = true ∧
        (e.note.noteType = .pub ∨ e.note.id ∈ (w.store d).details) ∧
          ∀ x, x ≠ a → ¬ s'.state.chain.notes.IsConsumedBy x e.note) := by
  intro e he hcommitted
  constructor
  · rintro ⟨e', he', hn', hst'⟩
    obtain ⟨v₀, v₁, v₂, h₀, h₁, h₂, -, hsubmit⟩ := consumeAvailable_busy ho ⟨trivial, fun _ => trivial⟩ hrun
    have hsync : Leads ((netActions P).only (LeavesAlone a d)) v₀ (v₀.sync P d) :=
      .step (l := .sync d) ⟨⟨trivial, fun _ => trivial⟩, rfl⟩
    have hl : Leads ((netActions P).only (LeavesAlone a d)) w v₂ :=
      trans_of (Leads ((netActions P).only (LeavesAlone a d))) h₀
        (trans_of (Leads ((netActions P).only (LeavesAlone a d))) hsync
          (trans_of (Leads ((netActions P).only (LeavesAlone a d))) h₁ h₂))
    -- before its transaction the account has not consumed the note
    have hentry : HasEntry e.note e.creator (· ≠ .consumed a) v₂ := by
      refine HasEntry.leads_only ?_ (fun _ _ => by simp) ⟨e, he, rfl, rfl, fun hst => ?_⟩ hl
      · rintro d' x req ⟨hne, -⟩ st - - heq
        cases heq
        exact hne rfl
      · rw [hst] at hcommitted
        cases hcommitted
    obtain ⟨e₂, he₂, hn₂, -, hne⟩ := hentry
    have hstep : actionStep P v₂ (.submit d a (.consumeNotes (v₁.listed P d a))) s'.state := hsubmit
    rcases consumableBy_step hstep he' hst' with
      ⟨e₀, he₀, hn₀, hst₀⟩ | ⟨d', ns, heq, -, hby, hid⟩
    · rw [NoteBook.entry_unique he₀ he₂ (by rw [hn₀, hn', hn₂])] at hst₀
      exact absurd hst₀ hne
    · cases heq
      rw [hn'] at hby hid
      refine ⟨hby, details_leads (fun act hact => hact.2 e.note.id) he hl hid, ?_⟩
      rintro x hx ⟨e'', he'', hn'', hst''⟩
      rw [NoteBook.entry_unique he'' he' (by rw [hn'', hn']), hst'] at hst''
      cases hst''
      exact hx rfl
  · rintro ⟨hby, hvis, hothers⟩
    rcases hst : e.status with _ | b | _
    · rw [hst] at hcommitted
      cases hcommitted
    · obtain ⟨e', he', hn', hst'⟩ :=
        consumeAvailable_collects (orderly_of_reachable hw) ho.all ⟨e, he, rfl, rfl, hst⟩ hby hvis hrun
      rcases hconsumer : e'.status with _ | _ | x
      · rw [hconsumer] at hst'
        cases hst'
      · rw [hconsumer] at hst'
        cases hst'
      · by_cases hx : x = a
        · exact ⟨e', he', hn', hx ▸ hconsumer⟩
        · exact absurd ⟨e', he', hn', hconsumer⟩ (hothers x hx)
    · rw [hst] at hcommitted
      cases hcommitted

/-- **Payments to accounts of other clients.** A mint or transfer that ends well at client `c`, and whose payee `c` does
not track, leaves a new note with the amount. As long as nobody delivers the details of the note, and `c` does not start
to track the payee, no client lists it, it is not consumed, and all accounts together have at most what was issued less
the amount. When the details have come to a client and the note is committed, every `consume_notes` of the payee, a
wallet, that ends well there consumes it. -/
theorem payment_strands {k : ℕ} {i t : AccountId} {amount : ℕ} (hw : Reachable (netActions P) w)
    (ho : Meanwhile P others) (hp : call.payee = some (i, t, amount))
    (hrun : Op.run (call.op (busyClient P c env others)) ⟨w, k⟩ = (.ok (), s')) (ht : t ∉ (s'.state.store c).tracked) :
    ∃ n : Note, n.id ∉ w.chain.notes.ids ∧ n.asset = ⟨i, amount⟩ ∧ n.target = t ∧
      (∀ v, Leads ((netActions P).only (Withheld n.id c t)) s'.state v →
        (∀ d a, n ∉ v.listed P d a) ∧ n ∈ v.chain.notes.unconsumed ∧
          ∑ a ∈ v.chain.accounts, v.chain.vault a i + amount ≤ v.chain.issuance i) ∧
      ∀ v d b, Leads (netActions P) s'.state v → CommittedAt n b v → t.isFaucet = false →
        n.id ∈ (v.store d).details → ∀ env others k s₂, Meanwhile P others →
          Op.run (consumeNotes (busyClient P d env others) t) ⟨v, k⟩ = (.ok (), s₂) →
            s₂.state.chain.notes.IsConsumed n := by
  have hl : Leads (netActions P) w s'.state := (call.op_keeps (busyClient_keeps ho)).of_run hrun
  obtain ⟨n, u, hasset, rfl, hpriv, hscript, hu, hout⟩ := payment_busy ho hp hrun
  have hord := orderly_of_reachable hw
  have hnew : n.id ∉ u.chain.notes.ids := hout.fresh n (List.mem_singleton_self n)
  have hp2ide : n.script.isP2ide = false := by
    rw [hscript]
    rfl
  have hkept : Kept n c s'.state := by
    refine ⟨?_, ?_, ht⟩
    · obtain ⟨e, he, hn, hc, hst⟩ := hout.hasEntry
      exact ⟨e, he, hn, hc, by rw [hst]; rfl⟩
    · intro d hid
      rcases hout.mem_details.1 hid with hid | ⟨hd, -⟩
      · exact absurd ((hord.leads hu).informed.known d _ hid) hnew
      · exact hd
  refine ⟨n, ?_, hasset, rfl, ?_, ?_⟩
  · -- ids that are in use stay in use
    intro hid
    obtain ⟨e, he, heq⟩ := List.mem_map.1 hid
    have hentry : HasEntry e.note e.creator (fun _ => True) w := ⟨e, he, rfl, rfl, trivial⟩
    obtain ⟨e', he', hn', -, -⟩ := hentry.stays hu
    refine hnew ?_
    rw [← heq, ← hn']
    exact NoteBook.mem_ids he'
  · intro v hv
    have hkept' := hkept.leads hpriv hp2ide hv
    have hle := (hord.leads (trans_of (Leads (netActions P)) hl hv.of_only)).balances_le hkept'.mem_unconsumed i
    rw [n.value_apply, hasset, if_pos rfl] at hle
    exact ⟨fun d a => hkept'.notMem_listed hp2ide d a, hkept'.mem_unconsumed, hle⟩
  · intro v d b hv hcommitted hwallet hid env' others' k' s₂ ho' hcons
    obtain ⟨e, he, hn, hst⟩ := hcommitted
    have hby : n.consumableBy n.target = true := by simp [Note.consumableBy, hscript, hwallet]
    exact consumeAvailable_collects (hord.leads (trans_of (Leads (netActions P)) hl hv)) ho' ⟨e, he, hn, rfl, hst⟩ hby
      (.inr hid) hcons

/-- **Burns at a client without the issuer.** `burn_tokens` at a client that does not track the issuer, and does not
start to do so, fails, whatever the others do meanwhile. If its first step was accepted, the note of that step has the
amount of the burn, and is consumed by every `consume_notes` of the issuer that ends well at any client and begins when
the note is committed. -/
theorem burn_elsewhere {k : ℕ} {snd i : AccountId} {amount : ℕ} {r : Except Error Unit}
    (hw : Reachable (netActions P) w) (ho : MeanwhileOnly P (· ≠ .track c i) others) (hi : i ∉ (w.store c).tracked)
    (hrun : Op.run (burnTokens (busyClient P c env others) snd i amount) ⟨w, k⟩ = (r, s')) :
    (∃ e, r = .error e) ∧
      ∀ s₁, Op.run (createBurnOutput (busyClient P c env others) snd i amount) ⟨w, k⟩ = (.ok (), s₁) →
        ∃ n : Note, n.asset = ⟨i, amount⟩ ∧ n.target = i ∧ n ∈ s₁.state.chain.notes.unconsumed ∧
          ∀ v b, Leads (netActions P) s'.state v → CommittedAt n b v →
            ∀ d env others k s₂, Meanwhile P others →
              Op.run (consumeNotes (busyClient P d env others) i) ⟨v, k⟩ = (.ok (), s₂) →
                s₂.state.chain.notes.IsConsumed n := by
  have hk : (busyClient P c env others).Keeps (OnState (Leads (netActions P))) := busyClient_keeps ho.all
  constructor
  · cases r with
    | error e => exact ⟨e, rfl⟩
    | ok u =>
      have hop : Op.run ((TokenCall.burn snd i amount).op (busyClient P c env others)) ⟨w, k⟩ = (.ok (), s') := hrun
      have htracked : i ∈ (w.store c).tracked := ok_tracked ho (by simp [TokenCall.authorisers]) hop
      exact absurd htracked hi
  · intro s₁ hfirst
    obtain ⟨n, u, hasset, htarget, hpub, hby, hu, hsubmit⟩ := createBurnOutput_busy ho.all hfirst
    have hentry := (submit_output_one hsubmit).hasEntry
    refine ⟨n, hasset, htarget, ?_, ?_⟩
    · obtain ⟨e, he, hn, -, hst⟩ := hentry
      exact NoteBook.mem_unconsumed.2 ⟨e, he, hn, by rw [hst]; rfl⟩
    · intro v b hv hcommitted d env' others' k' s₂ ho' hcons
      have hrest : Leads (netActions P) s₁.state s'.state := by
        have hsecond : Op.run (consumeAvailable (busyClient P c env others) burnTexts i) s₁ = (r, s') := by
          rw [← hrun, burnTokens, Op.run_bind_of_ok hfirst]
        exact (consumeAvailable_keeps hk burnTexts i).of_run hsecond
      have hl₁ : Leads (netActions P) w s₁.state := (createBurnOutput_keeps hk snd i amount).of_run hfirst
      have hl := trans_of (Leads (netActions P)) hrest hv
      have hord := (orderly_of_reachable hw).leads (trans_of (Leads (netActions P)) hl₁ hl)
      obtain ⟨e, he, hn, hst⟩ := hcommitted
      exact consumeAvailable_collects hord ho' ⟨e, he, hn, rfl, hst⟩ hby (.inl hpub) hcons

end Interleaving

/-! ## Two clients and blocks in between -/

namespace TwoClients

/-- A block comes before every second call. -/
def blocks (k : ℕ) (w : Network) : Network :=
  if k % 2 = 0 then { w with chain := w.chain.produceBlock fun _ => true } else w

/-- There are blocks, and nothing else, in between. -/
theorem only_blocks (P : Params) {ok : NetAction → Prop} (hok : ∀ incl, ok (.block incl)) :
    MeanwhileOnly P ok blocks := by
  intro k w
  unfold blocks
  split
  · exact .step (l := .block fun _ => true) ⟨hok _, rfl⟩
  · exact refl w

theorem meanwhile_blocks (P : Params) : Meanwhile P blocks := by
  have hblocks : MeanwhileOnly P (fun _ => True) blocks := only_blocks P fun _ => trivial
  exact hblocks.all

/-- Client 1 has made Bob's account, client 0 the others. -/
def owner (a : AccountId) : ClientId := if a = bob then 1 else 0

/-- The network in which every client tracks the accounts that it has made. -/
def apart : Network := { start with store := fun d => ⟨start.chain.accounts.filter fun a => owner a = d, ∅, 0⟩ }

theorem netFresh_apart : NetFresh .protocol apart where
  chain := ⟨rfl, rfl, rfl, fun _ => by show 1000 ≤ 2 ^ 63 - 2 ^ 31; omega⟩
  details _ := rfl
  syncedTo _ := Nat.le_refl _
  seen _ _ := rfl

/-- Client 0 has minted 100 tokens to `t`, and a block has included the note. -/
def minted (t : AccountId) (noteType : NoteType) : Network :=
  let n := apart.chain.payNote issuer t ⟨issuer, 100⟩ noteType
  let w := match apart.submit .protocol 0 issuer (.ownOutputNotes [n]) with
    | .ok w => w
    | .error _ => apart
  { w with chain := w.chain.produceBlock fun _ => true }

theorem reachable_minted (t : AccountId) (noteType : NoteType) : Reachable (netActions .protocol) (minted t noteType) :=
  ⟨apart, [.submit 0 issuer (.ownOutputNotes [apart.chain.payNote issuer t ⟨issuer, 100⟩ noteType]),
    .block fun _ => true], netFresh_apart, .cons rfl (.cons rfl (.nil _))⟩

/-- Alice consumes what was minted, with blocks in between. -/
def collected (t : AccountId) (noteType : NoteType) : Except Error Unit × Session Network :=
  Op.run (consumeNotes (busyClient .protocol 0 (.steady none) blocks) t) ⟨minted t noteType, 0⟩

/-- Client 0 mints to `t`, with blocks in between. -/
def paying (t : AccountId) : Except Error Unit × Session Network :=
  Op.run ((TokenCall.mint issuer t 100).op (busyClient .protocol 0 (.steady none) blocks)) ⟨apart, 0⟩

/-- The note of that mint to Bob is committed, and client 0 delivers its details to client 1. -/
def handed : Network :=
  let w := (paying bob).2.state
  { w with chain := w.chain.produceBlock fun _ => true }.delivered 1 {(mintNote bob).id}

theorem leads_handed : Leads (netActions .protocol) (paying bob).2.state handed :=
  ⟨[.block fun _ => true, .deliver 0 1 {(mintNote bob).id}], .cons rfl (.cons ⟨by decide, rfl⟩ (.nil _))⟩

/-- Then Bob consumes it, with blocks in between. -/
def arrived : Except Error Unit × Session Network :=
  Op.run (consumeNotes (busyClient .protocol 1 (.steady none) blocks) bob) ⟨handed, 0⟩

/-- Bob has consumed a public mint, with other software than the operations. -/
def funded : Network :=
  let w := (minted bob .pub).sync .protocol 1
  match w.submit .protocol 1 bob (.consumeNotes (w.consumable 1 bob)) with
  | .ok w => w
  | .error _ => w

theorem reachable_funded : Reachable (netActions .protocol) funded := by
  have hsync : Reachable (netActions .protocol) ((minted bob .pub).sync .protocol 1) :=
    (reachable_minted bob .pub).step (l := .sync 1) rfl
  exact hsync.step (l := .submit 1 bob (.consumeNotes (((minted bob .pub).sync .protocol 1).consumable 1 bob))) rfl

/-- Bob's client tries to burn, and its fourth call fails. -/
def burning : Except Error Unit × Session Network :=
  Op.run (burnTokens (busyClient .protocol 1 ⟨fun k => k == 3, fun _ => none⟩ blocks) bob issuer 60) ⟨funded, 0⟩

/-- The first step of that burn. -/
def requested : Except Error Unit × Session Network :=
  Op.run (createBurnOutput (busyClient .protocol 1 ⟨fun k => k == 3, fun _ => none⟩ blocks) bob issuer 60) ⟨funded, 0⟩

end TwoClients

open TwoClients

/-- Alice's payment is private and made by her own client, so she consumes it. -/
theorem alice_collects : (collected alice .priv).2.state.chain.notes.IsConsumedBy alice (mintNote alice) := by
  have hrun : Op.run (consumeNotes (busyClient .protocol 0 (.steady none) blocks) alice) ⟨minted alice .priv, 0⟩ =
      (.ok (), (collected alice .priv).2) := rfl
  have hothers : MeanwhileOnly .protocol (LeavesAlone alice 0) blocks :=
    only_blocks .protocol fun _ => ⟨trivial, fun _ => trivial⟩
  have hiff := consumeNotes_takes_iff (reachable_minted alice .priv) hothers hrun
    ⟨mintNote alice, 0, .committed 1⟩ (by decide) rfl
  refine hiff.2 ⟨by decide, .inr (by decide), ?_⟩
  rintro x hx ⟨e, he, -, hst⟩
  have hall : ∀ e ∈ (collected alice .priv).2.state.chain.notes.entries, e.status = .consumed alice := by decide
  rw [hall e he] at hst
  cases hst
  exact hx rfl

/-- Bob's account is another client's: the payment to him is listed nowhere, until client 0 delivers the details; then
he consumes it. -/
theorem bob_stranded : (∀ d a, mintNote bob ∉ (paying bob).2.state.listed .protocol d a) ∧
    mintNote bob ∈ (paying bob).2.state.chain.notes.unconsumed ∧
    arrived.2.state.chain.notes.IsConsumed (mintNote bob) := by
  have hrun : Op.run ((TokenCall.mint issuer bob 100).op (busyClient .protocol 0 (.steady none) blocks)) ⟨apart, 0⟩ =
      (.ok (), (paying bob).2) := rfl
  obtain ⟨n, -, hasset, -, hwaits, harrives⟩ := payment_strands ⟨apart, [], netFresh_apart, .nil _⟩
    (meanwhile_blocks .protocol) rfl hrun (by decide)
  obtain ⟨hlisted, hunconsumed, -⟩ := hwaits _ (refl _)
  have hone : (paying bob).2.state.chain.notes.unconsumed = [mintNote bob] := by decide
  have hn : n = mintNote bob := by
    rw [hone] at hunconsumed
    exact List.mem_singleton.1 hunconsumed
  subst hn
  have hcommitted : CommittedAt (mintNote bob) 2 handed :=
    ⟨⟨mintNote bob, 0, .committed 2⟩, by decide, rfl, rfl⟩
  exact ⟨hlisted, hunconsumed, harrives handed 1 2 leads_handed hcommitted rfl (by decide) (.steady none) blocks 0
    arrived.2 (meanwhile_blocks .protocol) rfl⟩

/-- Bob's burn fails at his client, and its note waits for the issuer's. -/
theorem bob_burns_elsewhere : (∃ e, burning.1 = .error e) ∧ ∃ n : Note, n.asset = ⟨issuer, 60⟩ ∧ n.target = issuer ∧
    n ∈ requested.2.state.chain.notes.unconsumed := by
  have hissuer : issuer ∉ (funded.store 1).tracked := by decide
  have hrun : Op.run (burnTokens (busyClient .protocol 1 ⟨fun k => k == 3, fun _ => none⟩ blocks) bob issuer 60)
      ⟨funded, 0⟩ = (burning.1, burning.2) := rfl
  have hothers : MeanwhileOnly .protocol (· ≠ .track 1 issuer) blocks := only_blocks .protocol fun _ => by simp
  obtain ⟨herror, hnote⟩ := burn_elsewhere reachable_funded hothers hissuer hrun
  have hfirst : Op.run (createBurnOutput (busyClient .protocol 1 ⟨fun k => k == 3, fun _ => none⟩ blocks) bob issuer 60)
      ⟨funded, 0⟩ = (.ok (), requested.2) := rfl
  obtain ⟨n, hasset, htarget, hn, -⟩ := hnote _ hfirst
  exact ⟨herror, n, hasset, htarget, hn⟩

end BraleMiden
