import Mathlib.Data.List.Perm.Subperm
import BraleMiden.Chain.Conservation

/-!
# Whether a burn burns its own note

`burn_tokens` creates a burn note and then lets the issuer consume whatever it finds. A call that ends well has burned
its own note and exactly its amount if no other note was waiting for the issuer before (`burn_exact`).
Otherwise a block can show the issuer an older note first, and the call ends well without its own note
(`burn_misses`).
-/

namespace BraleMiden

open Effects Systems Accounting

namespace Chain

/-- The unconsumed notes, committed or not, that `a` can consume. -/
def outstanding (s : Chain) (a : AccountId) : List Note := s.notes.unconsumed.filter (Note.consumableBy a)

variable {s s' : Chain} {c : ClientId} {a i snd : AccountId} {n : Note}

theorem mem_outstanding : n ∈ s.outstanding a ↔ n ∈ s.notes.unconsumed ∧ n.consumableBy a = true := List.mem_filter

theorem consumable_subset_outstanding (s : Chain) (a : AccountId) : s.consumable a ⊆ s.outstanding a := fun _ hn =>
  mem_outstanding.2 ⟨NoteBook.committed_subset_unconsumed hn, (NoteBook.mem_committed.1 hn).1⟩

/-- Syncing brings no new notes. -/
theorem Synced.outstanding_eq (h : Synced s s') (a : AccountId) : s'.outstanding a = s.outstanding a := by
  rw [outstanding, outstanding, h.notes.unconsumed_eq]

/-- A new note is not committed yet. -/
theorem Outputs.consumable_eq (h : Outputs c a n s s') (x : AccountId) : s'.consumable x = s.consumable x := by
  obtain ⟨-, -, hid, rfl⟩ := h
  exact NoteBook.committed_insert (h := hid)

theorem Outputs.listed_eq (h : Outputs c a n s s') (P : Params) (x : AccountId) : s'.listed P x = s.listed P x := by
  obtain ⟨-, -, hid, rfl⟩ := h
  exact NoteBook.committed_insert (h := hid)

/-- A new note is waiting for the account it is addressed to. -/
theorem Outputs.outstanding_eq (h : Outputs c a n s s') (x : AccountId) :
    s'.outstanding x = s.outstanding x ++ if n.consumableBy x = true then [n] else [] := by
  simp only [outstanding, h.moved.unconsumed, List.filter_append, List.filter_singleton, Bool.cond_eq_ite]

/-- A burn note can be consumed by its issuer. -/
theorem burnNote_consumableBy (s : Chain) (snd : AccountId) {i : AccountId} (hi : i.isFaucet = true) (amount : ℕ) :
    (s.burnNote snd i ⟨i, amount⟩).consumableBy i = true := by
  simp [burnNote, Note.consumableBy, hi]

/-- What a faucet can consume has no timelock. -/
theorem ready_of_faucet (hi : i.isFaucet = true) (hn : n ∈ s.consumable i) : s.Ready i n := by
  obtain ⟨hscript, -, -⟩ := Note.of_consumableBy_faucet (NoteBook.mem_committed.1 hn).1 hi
  exact ⟨hn, by simp [Note.availableFrom, hscript]⟩

/-- A faucet can consume everything that is consumable, up to the input-note limit. -/
theorem Sound.canConsume {P : Params} (h : Sound P s) (hi : i.isFaucet = true)
    (hlen : (s.consumable i).length ≤ P.inputNoteLimit) : CanConsume P i s (s.consumable i) :=
  ⟨hlen, NoteBook.nodup_committed _ _, fun _ hn => ready_of_faucet hi hn, fun _ =>
    h.amountOf_le hi (NoteBook.nodup_committed _ _) NoteBook.committed_subset_unconsumed
      fun _ hn => (NoteBook.mem_committed.1 hn).1⟩

end Chain

open Chain

/-- A list without repetitions inside a singleton. -/
theorem eq_singleton_of_nodup {α : Type} {l : List α} {a : α} (h : l.Nodup) (hs : l ⊆ [a]) (hne : l ≠ []) :
    l = [a] := by
  obtain ⟨b, hb⟩ := List.exists_mem_of_ne_nil l hne
  have hba : b = a := List.mem_singleton.1 (hs hb)
  refine List.perm_singleton.1 ((List.perm_ext_iff_of_nodup h (List.nodup_singleton a)).2 fun x => ?_)
  exact ⟨fun hx => hs hx, fun hx => List.mem_singleton.1 hx ▸ hba ▸ hb⟩

/-! ## Exact burns -/

section Burn

variable {P : Params} {me : ClientId} {s : Chain} {snd i : AccountId} {amount : ℕ}

/-- Whenever the burn ends well, the note of this call is consumed and the issuance is lower by exactly `amount`. -/
def BurnExact (P : Params) (me : ClientId) (snd i : AccountId) (amount : ℕ) (s : Chain) : Prop :=
  ∀ env s' k, Op.run (burnTokens (chainClient P me env) snd i amount) ⟨s, 0⟩ = (.ok (), ⟨s', k⟩) →
    s'.notes.IsConsumed (s.burnNote snd i ⟨i, amount⟩) ∧ s'.issuance i + amount = s.issuance i

/-- What a burn that ends well has done: its note, syncs, and the consumption of everything consumable. -/
theorem burnTokens_chain {env : Env} {s s' : Session Chain}
    (h : Op.run (burnTokens (chainClient P me env) snd i amount) s = (.ok (), s')) :
    i.isFaucet = true ∧ ∃ s₁, Outputs me snd (s.state.burnNote snd i ⟨i, amount⟩) s.state s₁ ∧
      ConsumesAll P i s₁ s'.state := by
  obtain ⟨s₁, hout, hcons⟩ := burnTokens_ok.1 h
  obtain ⟨-, hi, -, c, hout', rfl⟩ := createBurnOutput_chain.1 hout
  exact ⟨hi, c, hout', consumeAvailable_chain hcons⟩

/-- If no other note is waiting for the issuer, a burn that ends well consumes its own note and no other. -/
theorem burn_own {env : Env} {s s' : Session Chain} (hnil : s.state.outstanding i = [])
    (h : Op.run (burnTokens (chainClient P me env) snd i amount) s = (.ok (), s')) :
    i.isFaucet = true ∧ ∃ s₁ s₂, Outputs me snd (s.state.burnNote snd i ⟨i, amount⟩) s.state s₁ ∧ Synced s₁ s₂ ∧
      CanConsume P i s₂ [s.state.burnNote snd i ⟨i, amount⟩] ∧
      s'.state = afterConsume i s₂ [s.state.burnNote snd i ⟨i, amount⟩] := by
  obtain ⟨hi, s₁, hout, s₂, hsync, -, hne, -, hcan, hs'⟩ := burnTokens_chain h
  -- the only note the issuer can find is the one of this call
  have hout₂ : s₂.outstanding i = [s.state.burnNote snd i ⟨i, amount⟩] := by
    rw [hsync.outstanding_eq, hout.outstanding_eq, hnil, if_pos (burnNote_consumableBy s.state snd hi amount),
      List.nil_append]
  have hall : s₂.consumable i = [s.state.burnNote snd i ⟨i, amount⟩] :=
    eq_singleton_of_nodup (NoteBook.nodup_committed _ _) (hout₂ ▸ consumable_subset_outstanding s₂ i) hne
  rw [hall] at hcan hs'
  exact ⟨hi, s₁, s₂, hout, hsync, hcan, hs'⟩

theorem amountOf_burnNote (s : Chain) (snd i : AccountId) (amount : ℕ) :
    amountOf [s.burnNote snd i ⟨i, amount⟩] = amount := by
  simp [amountOf, burnNote]

/-- **A burn is exact if no other note is waiting for the issuer.** -/
theorem burn_exact {env : Env} {s s' : Session Chain} (hsnd : snd.isFaucet = false) (hnil : s.state.outstanding i = [])
    (h : Op.run (burnTokens (chainClient P me env) snd i amount) s = (.ok (), s')) :
    s'.state.notes.IsConsumed (s.state.burnNote snd i ⟨i, amount⟩) ∧
      s'.state.issuance i + amount = s.state.issuance i := by
  obtain ⟨hi, s₁, s₂, hout, hsync, ⟨-, -, hready, hcov⟩, hs'⟩ := burn_own hnil h
  have hiss : s₂.issuance = s.state.issuance := by
    obtain ⟨-, -, hid, rfl⟩ := hout
    rw [hsync.issuance]
    simp [afterOutput, hsnd]
  have hle := hcov hi
  rw [amountOf_burnNote, hiss] at hle
  rw [hs']
  constructor
  · obtain ⟨-, e, he, hn, -⟩ := NoteBook.mem_committed.1 (hready _ (List.mem_singleton_self _)).1
    exact NoteBook.isConsumed_markConsumed.2 (.inr ⟨List.mem_singleton_self _, e, he, hn⟩)
  · simp only [afterConsume, hi, if_true, debit_self, amountOf_burnNote, hiss]
    omega

/-- What is listed for the issuer stays listed, and a burn that ends well has consumed all of it. -/
theorem burn_listed {env : Env} {s s' : Session Chain}
    (h : Op.run (burnTokens (chainClient P me env) snd i amount) s = (.ok (), s')) :
    ∃ s₂ : Chain, s.state.listed P i ⊆ s₂.consumable i ∧ CanConsume P i s₂ (s₂.consumable i) := by
  obtain ⟨-, s₁, hout, s₂, hsync, hlist, -, -, hcan, -⟩ := burnTokens_chain h
  exact ⟨s₂, hlist ▸ hout.listed_eq P i ▸ hsync.listed P i, hcan⟩

/-- When more notes are listed than one transaction can consume, no burn ends well. -/
theorem burn_of_limit (hlen : P.inputNoteLimit < (s.listed P i).length) : BurnExact P me snd i amount s := by
  intro env s' k h
  obtain ⟨s₂, hsub, hcan⟩ := burn_listed h
  have hle : (s.listed P i).length ≤ (s₂.consumable i).length :=
    ((NoteBook.nodup_committed _ s.notes).subperm hsub).length_le
  have hlim := hcan.1
  omega

/-- When a note is listed that the issuer cannot consume, no burn ends well. -/
theorem burn_of_foreign {n : Note} (hn : n ∈ s.listed P i) (hby : n.consumableBy i = false) :
    BurnExact P me snd i amount s := by
  intro env s' k h
  obtain ⟨s₂, hsub, -⟩ := burn_listed h
  rw [(NoteBook.mem_committed.1 (hsub hn)).1] at hby
  cases hby

/-- **A burn is not exact if the first sync shows the issuer other notes only.** -/
theorem burn_misses {s₁ : Chain} (block : Option (NoteId → Bool)) (hs : Sound P s) (hia : i ∈ s.accounts)
    (hi : i.isFaucet = true) (hn : amount ≤ P.maxAmount)
    (hout : Outputs me snd (s.burnNote snd i ⟨i, amount⟩) s s₁)
    (hlist : (s₁.sync block).listed P i = (s₁.sync block).consumable i) (hne : (s₁.sync block).consumable i ≠ [])
    (hlen : ((s₁.sync block).consumable i).length ≤ P.inputNoteLimit)
    (hown : s.burnNote snd i ⟨i, amount⟩ ∉ (s₁.sync block).consumable i) :
    ¬ BurnExact P me snd i amount s := by
  have hs₁ : Sound P s₁ := hs.submit (submit_output_iff.2 hout)
  have hs₂ : Sound P (s₁.sync block) := hs₁.synced (synced_sync s₁ block)
  have hia₂ : i ∈ (s₁.sync block).accounts := by
    obtain ⟨-, -, hid, rfl⟩ := hout
    rw [(synced_sync _ block).accounts]
    exact hia
  have hsub := (submit_consume (c := me)).2 ⟨hia₂, consume_ok.2 ⟨hs₂.canConsume hi hlen, rfl⟩⟩
  have hout' : Op.run (createBurnOutput (chainClient P me (.steady block)) snd i amount) ⟨s, 0⟩ = (.ok (), ⟨s₁, 3⟩) :=
    createBurnOutput_chain.2 ⟨fun _ _ => rfl, hi, hn, s₁, hout, rfl⟩
  have hcons : Op.run (consumeAvailable (chainClient P me (.steady block)) burnTexts i) ⟨s₁, 3⟩ =
      (.ok (), ⟨afterConsume i (s₁.sync block) ((s₁.sync block).consumable i), 8⟩) := by
    apply consumeAvailable_first
    · intro k
      rfl
    · show (s₁.sync block).listed P i ≠ []
      rw [hlist]
      exact hne
    · show (s₁.sync block).submit P me i (.consumeNotes ((s₁.sync block).listed P i)) = _
      rw [hlist]
      exact hsub
  have hrun := burnTokens_ok.2 ⟨_, hout', hcons⟩
  intro hexact
  refine NoteBook.not_isConsumed ?_ (hexact _ _ _ hrun).1
  show _ ∈ ((s₁.sync block).notes.markConsumed i ((s₁.sync block).consumable i)).unconsumed
  rw [NoteBook.unconsumed_markConsumed, List.mem_filter, (synced_sync s₁ block).notes.unconsumed_eq]
  exact ⟨hout.moved.unconsumed ▸ List.mem_append_right _ (List.mem_singleton_self _), by simpa using hown⟩

/-- If notes wait for the issuer and those listed fit into one transaction, some block schedule makes it miss. -/
theorem not_burnExact (hs : Sound P s) (hsa : snd ∈ s.accounts) (hsnd : snd.isFaucet = false) (hia : i ∈ s.accounts)
    (hi : i.isFaucet = true) (hv : amount ≤ s.vault snd i) (hne : s.outstanding i ≠ [])
    (hlen : (s.listed P i).length ≤ P.inputNoteLimit) (hall : ∀ n ∈ s.listed P i, n.consumableBy i = true) :
    ¬ BurnExact P me snd i amount s := by
  have hfresh : s.notes.nextId ∉ s.notes.ids := s.notes.nextId_notMem
  have hcan : CanOutput snd s (s.burnNote snd i ⟨i, amount⟩) := by simpa [CanOutput, hsnd, burnNote] using hv
  have hout : Outputs me snd (s.burnNote snd i ⟨i, amount⟩) s _ := ⟨hsa, hcan, hfresh, rfl⟩
  have hn : amount ≤ P.maxAmount := hv.trans (hs.vault_le_maxAmount hsa i)
  have hnew : s.burnNote snd i ⟨i, amount⟩ ∉ s.notes.unconsumed := NoteBook.notMem_unconsumed hfresh
  have hlisted : s.listed P i = s.consumable i := listed_eq_consumable hall
  by_cases hcom : s.consumable i = []
  · -- every waiting note is pending: a block includes one of them, and not the note of this call
    obtain ⟨n₀, hn₀⟩ := List.exists_mem_of_ne_nil _ hne
    obtain ⟨hun, hcb⟩ := mem_outstanding.1 hn₀
    have hun₁ : n₀ ∈ (afterOutput me snd s _ hfresh).notes.unconsumed :=
      hout.moved.unconsumed ▸ List.mem_append_left _ hun
    have hshown : ∀ n, n ∈ ((afterOutput me snd s _ hfresh).sync (some (· == n₀.id))).listed P i ↔ n = n₀ := fun n =>
      NoteBook.mem_committed_commit_single ((hout.listed_eq P i).trans (hlisted.trans hcom)) hun₁ (P.complete hcb)
    have hlist := listed_eq_consumable (P := P) (a := i) fun n hmem => by
      rw [(hshown n).1 hmem]
      exact hcb
    have hone : ((afterOutput me snd s _ hfresh).sync (some (· == n₀.id))).listed P i = [n₀] :=
      eq_singleton_of_nodup (NoteBook.nodup_committed _ _)
        (fun n hmem => List.mem_singleton.2 ((hshown n).1 hmem)) (List.ne_nil_of_mem ((hshown n₀).2 rfl))
    rw [hlist] at hone
    refine burn_misses (some (· == n₀.id)) hs hia hi hn hout hlist ?_ ?_ ?_
    · rw [hone]
      exact List.cons_ne_nil _ _
    · rw [hone]
      exact P.inputNoteLimit_pos
    · rw [hone, List.mem_singleton]
      rintro rfl
      exact hnew hun
  · -- the committed notes are there before any block
    refine burn_misses none hs hia hi hn hout ?_ ?_ ?_ ?_
    · rw [sync, hout.listed_eq, hout.consumable_eq]
      exact hlisted
    · rw [sync, hout.consumable_eq]
      exact hcom
    · rw [sync, hout.consumable_eq, ← hlisted]
      exact hlen
    · rw [sync, hout.consumable_eq]
      exact fun hmem => hnew (NoteBook.committed_subset_unconsumed hmem)

/-- **Burn exactness.** In a reachable state, a burn of a wallet that holds the amount is exact, for every environment,
if and only if no other unconsumed note waits for the issuer, or it can never end well: more notes are listed than a
transaction can consume, or one that the issuer cannot consume. -/
theorem burnExact_iff (hs : Reachable (history P me) s) (hsa : snd ∈ s.accounts) (hsnd : snd.isFaucet = false)
    (hia : i ∈ s.accounts) (hi : i.isFaucet = true) (hv : amount ≤ s.vault snd i) :
    BurnExact P me snd i amount s ↔ s.outstanding i = [] ∨ P.inputNoteLimit < (s.listed P i).length ∨
      ∃ n ∈ s.listed P i, n.consumableBy i = false := by
  constructor
  · intro h
    by_contra hcon
    simp only [not_or, not_exists, not_and, Bool.not_eq_false, not_lt] at hcon
    obtain ⟨hne, hlen, hall⟩ := hcon
    exact not_burnExact (sound_of_reachable hs) hsa hsnd hia hi hv hne hlen hall h
  · rintro (hnil | hlen | ⟨n, hn, hby⟩)
    · exact fun env s' k h => burn_exact hsnd hnil h
    · exact burn_of_limit hlen
    · exact burn_of_foreign hn hby

end Burn

/-! ## A history with a leftover note -/

namespace LeftoverBurn

def issuer : AccountId := ⟨true, 1⟩

theorem issuer_isFaucet : issuer.isFaucet = true := rfl

def alice : AccountId := ⟨false, 2⟩

/-- The issuer has minted 100 tokens to Alice. -/
def minted : Chain :=
  (Op.run ((TokenCall.mint issuer alice 100).op (chainClient .protocol 0 (.steady none)))
    ⟨genesis {issuer, alice} fun _ => 1000, 0⟩).2.state

/-- She has consumed them. -/
def funded : Chain :=
  (Op.run ((TokenCall.consume alice).op (chainClient .protocol 0 (.steady (some fun _ => true)))) ⟨minted, 0⟩).2.state

/-- Her burn of 50 failed at its first sync, after its first transaction; a block includes its note. -/
def leftover : Chain :=
  let failing : Env := ⟨fun k => k == 3, fun _ => none⟩
  let s := (Op.run ((TokenCall.burn alice issuer 50).op (chainClient .protocol 0 failing)) ⟨funded, 0⟩).2.state
  s.produceBlock fun _ => true

theorem reachable_funded : Reachable (history .protocol 0) funded :=
  reachable_call (reachable_call (reachable_genesis fun _ => by decide) _ _) _ _

theorem reachable_leftover : Reachable (history .protocol 0) leftover :=
  reachable_block (reachable_call reachable_funded _ _) _

end LeftoverBurn

open LeftoverBurn

/-- Alice's first burn is exact. -/
theorem burnExact_funded : BurnExact .protocol 0 alice issuer 50 funded :=
  (burnExact_iff reachable_funded (by decide) rfl (by decide) rfl (by decide)).2 (.inl (by decide))

/-- Alice's next burn, of 30, ends well without its own note: it burns the 50 of the older note, which is the only one
listed. -/
theorem burn_consumes_leftover : Reachable (history .protocol 0) leftover ∧ 30 ≤ leftover.vault alice issuer ∧
    leftover.listed .protocol issuer = leftover.consumable issuer ∧
    ¬ BurnExact .protocol 0 alice issuer 30 leftover := by
  refine ⟨reachable_leftover, by decide, by decide, fun h => ?_⟩
  obtain ⟨-, hiss⟩ := h (.steady none) _ _ rfl
  have hbefore : leftover.issuance issuer = 100 := by decide
  rw [hbefore] at hiss
  revert hiss
  decide

end BraleMiden
