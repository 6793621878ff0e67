import Mathlib.Tactic.Simps.Basic
import BraleMiden.Operations.Tokens

/-!
# The operations on arbitrary answers

`scriptClient S` answers each call as the script `S` says, with nothing assumed about how the answers fit together, and
logs the calls. It is the client for statements about every sequence of responses.

`consume_notes` converts the records of its last query and drops those that do not convert. So a call that ends well has
consumed every record that was consumable if and only if all of them convert (`consumeNotes_complete_iff`).
-/

namespace BraleMiden

open Effects

/-- A call that was made, and for a submission whether it was accepted. -/
inductive Call
  | sync
  | query (account : AccountId)
  | build
  | submit (account : AccountId) (request : TransactionRequest) (accepted : Bool)
  | account (id : AccountId)
deriving DecidableEq, Repr

/-- The calls made so far, first one first. -/
structure CallLog where
  calls : List Call
deriving DecidableEq, Repr

/-- The answers of the client, by the number of the call. -/
structure Script where
  asset : AccountId → ℕ → Except Error FungibleAsset
  note : ℕ → Except Error Note
  request : ℕ → Except Error TransactionRequest
  build : ℕ → List Note → Except Error Unit
  sync : ℕ → Except Error Unit
  query : ℕ → AccountId → Except Error (List (InputNoteRecord × NoteConsumptionStatus))
  converts : InputNoteRecord → Bool
  submit : ℕ → AccountId → TransactionRequest → Except Error Unit
  account : ℕ → AccountId → Except Error (Option AccountRecordData)

namespace CallLog

/-- The number of the next call. -/
def next (s : CallLog) : ℕ := s.calls.length

/-- The log with one more call. -/
def push (s : CallLog) (c : Call) : CallLog := ⟨s.calls ++ [c]⟩

/-- The notes that a call has consumed: those an accepted transaction lists. -/
def consumedBy : Call → List Note
  | .submit _ (.consumeNotes notes) true => notes
  | _ => []

/-- The notes consumed so far. -/
def consumed (s : CallLog) : List Note := s.calls.flatMap consumedBy

@[simp] theorem push_next (s : CallLog) (c : Call) : (s.push c).next = s.next + 1 := by
  simp [next, push]

theorem consumed_push (s : CallLog) (c : Call) : (s.push c).consumed = s.consumed ++ consumedBy c := by
  simp [consumed, push]

end CallLog

/-- A call with the answer `r`, depending on its number. -/
def scripted {α : Type} (r : ℕ → Except Error α) (c : ℕ → Call) : Op CallLog Error α :=
  Op.mk fun s => (r s.next, s.push (c s.next))

/-- The client of a script. -/
@[simps] def scriptClient (S : Script) : Client CallLog where
  fungibleAssetNew := S.asset
  createBurnNote _ _ _ := scripted S.note fun _ => .build
  buildMintFungibleAsset _ _ _ := scripted S.request fun _ => .build
  buildPayToId _ _ := scripted S.request fun _ => .build
  buildOwnOutputNotes notes :=
    scripted (fun k => (S.build k notes).map fun _ => .ownOutputNotes notes) fun _ => .build
  buildConsumeNotes notes := scripted (fun k => (S.build k notes).map fun _ => .consumeNotes notes) fun _ => .build
  syncState := scripted S.sync fun _ => .sync
  getConsumableNotes a := scripted (fun k => S.query k a) fun _ => .query a
  converts := S.converts
  submitNewTransaction a req := scripted (fun k => S.submit k a req) fun k => .submit a req (S.submit k a req).isOk
  getAccount a := scripted (fun k => S.account k a) fun _ => .account a

section Script

variable {S : Script} {s s' s₁ s₂ : CallLog} {a : AccountId} {L : List (InputNoteRecord × NoteConsumptionStatus)}

theorem run_scripted {α : Type} {r : ℕ → Except Error α} {c : ℕ → Call} {x : Except Error α} :
    Op.run (scripted r c) s = (x, s') ↔ r s.next = x ∧ s' = s.push (c s.next) := by
  rw [scripted, Op.run_mk, Prod.mk.injEq, eq_comm (a := s')]

/-- A request that is built. -/
theorem run_built_ok {notes : List Note} {built req : TransactionRequest} :
    Op.run (scripted (fun k => (S.build k notes).map fun _ => built) fun _ => .build) s = (.ok req, s') ↔
      S.build s.next notes = .ok () ∧ req = built ∧ s' = s.push .build := by
  rw [run_scripted]
  cases S.build s.next notes with
  | error e => simp [Except.map]
  | ok u => simp [Except.map, eq_comm]

/-- A transaction that is accepted. -/
theorem run_submit_ok {r : TransactionRequest} : Op.run ((scriptClient S).submitNewTransaction a r) s = (.ok (), s') ↔
    S.submit s.next a r = .ok () ∧ s' = s.push (.submit a r true) := by
  rw [scriptClient_submitNewTransaction, run_scripted]
  constructor
  · rintro ⟨hsub, rfl⟩
    rw [hsub]
    exact ⟨rfl, rfl⟩
  · rintro ⟨hsub, rfl⟩
    rw [hsub]
    exact ⟨rfl, rfl⟩

/-- The notes that the call puts into its transaction: those of the records that convert. -/
def Script.notesOf (S : Script) (L : List (InputNoteRecord × NoteConsumptionStatus)) : List Note :=
  L.filterMap fun p => (scriptClient S).tryInto p.1

theorem Script.mem_notesOf {n : Note} : n ∈ S.notesOf L ↔ ∃ p ∈ L, S.converts p.1 = true ∧ p.1.note = n := by
  rw [notesOf, List.mem_filterMap]
  simp only [Client.tryInto, scriptClient_converts, Option.ite_none_right_eq_some, Option.some.injEq]

/-- A record is among the notes of the transaction if and only if it converts. -/
theorem Script.note_mem_notesOf {p : InputNoteRecord × NoteConsumptionStatus} (hp : p ∈ L) :
    p.1.note ∈ S.notesOf L ↔ S.converts p.1 = true := by
  rw [mem_notesOf]
  constructor
  · rintro ⟨⟨⟨n⟩, st⟩, -, hc, rfl⟩
    exact hc
  · intro hc
    exact ⟨p, hp, hc, rfl⟩

/-- Polling consumes nothing. -/
theorem scriptClient_pollKeeps : (scriptClient S).PollKeeps (Agrees CallLog.consumed) where
  syncState s := by
    show (s.push .sync).consumed = s.consumed
    rw [CallLog.consumed_push]
    exact List.append_nil _
  getConsumableNotes a s := by
    show (s.push (.query a)).consumed = s.consumed
    rw [CallLog.consumed_push]
    exact List.append_nil _

/-- After the loop and the last query, a call ends well when its request is built and its transaction accepted. -/
theorem run_consumeNotes_ok (hloop : Op.run (pollLoop (scriptClient S) (consumeTexts a) a) s = (.ok (), s₁))
    (hquery : Op.run ((scriptClient S).getConsumableNotes a) s₁ = (.ok L, s₂)) :
    Op.run (consumeNotes (scriptClient S) a) s = (.ok (), s') ↔
      S.build s₂.next (S.notesOf L) = .ok () ∧ S.submit (s₂.next + 1) a (.consumeNotes (S.notesOf L)) = .ok () ∧
        s' = (s₂.push .build).push (.submit a (.consumeNotes (S.notesOf L)) true) := by
  rw [consumeNotes, consumeAvailable_ok]
  constructor
  · rintro ⟨u₁, l, u₂, req, u₃, hl, hq, hbuild, hsubmit⟩
    rw [hloop] at hl
    cases hl
    rw [hquery] at hq
    cases hq
    obtain ⟨hb, rfl, rfl⟩ := run_built_ok.1 hbuild
    obtain ⟨hsub, rfl⟩ := run_submit_ok.1 hsubmit
    rw [CallLog.push_next] at hsub
    exact ⟨hb, hsub, rfl⟩
  · rintro ⟨hb, hsub, rfl⟩
    rw [← CallLog.push_next s₂ .build] at hsub
    exact ⟨s₁, L, s₂, _, _, hloop, hquery, run_built_ok.2 ⟨hb, rfl, rfl⟩, run_submit_ok.2 ⟨hsub, rfl⟩⟩

end Script

/-- **Completeness of note consumption.** `consume_notes` has seen the records `L` at its last query. If it ends well
then every record of `L` that was consumable is consumed, if and only if the request is not built, the transaction is
refused (then it does not end well), or every consumable record converts. -/
theorem consumeNotes_complete_iff {S : Script} {s₁ s₂ : CallLog} {a : AccountId}
    {L : List (InputNoteRecord × NoteConsumptionStatus)}
    (hloop : Op.run (pollLoop (scriptClient S) (consumeTexts a) a) ⟨[]⟩ = (.ok (), s₁))
    (hquery : Op.run ((scriptClient S).getConsumableNotes a) s₁ = (.ok L, s₂)) :
    (∀ s', Op.run (consumeNotes (scriptClient S) a) ⟨[]⟩ = (.ok (), s') →
        ∀ p ∈ L, p.2 = .consumable → p.1.note ∈ s'.consumed) ↔
      (S.build s₂.next (S.notesOf L)).isOk = false ∨
        (S.submit (s₂.next + 1) a (.consumeNotes (S.notesOf L))).isOk = false ∨
          ∀ p ∈ L, p.2 = .consumable → S.converts p.1 = true := by
  have hnone : s₂.consumed = [] := by
    have h₁ : s₁.consumed = (CallLog.mk []).consumed :=
      (pollLoop_keeps scriptClient_pollKeeps (consumeTexts a) a).of_run hloop
    have h₂ : s₂.consumed = s₁.consumed := (scriptClient_pollKeeps.getConsumableNotes a).of_run hquery
    rw [h₂, h₁]
    rfl
  have hconsumed : ((s₂.push .build).push (.submit a (.consumeNotes (S.notesOf L)) true)).consumed = S.notesOf L := by
    rw [CallLog.consumed_push, CallLog.consumed_push, hnone]
    rfl
  constructor
  · intro hall
    cases hb : S.build s₂.next (S.notesOf L) with
    | error e => exact .inl rfl
    | ok x =>
      cases hsub : S.submit (s₂.next + 1) a (.consumeNotes (S.notesOf L)) with
      | error e => exact .inr (.inl rfl)
      | ok y =>
        refine .inr (.inr ?_)
        intro p hp hnow
        have hmem := hall _ ((run_consumeNotes_ok hloop hquery).2 ⟨hb, hsub, rfl⟩) p hp hnow
        rw [hconsumed] at hmem
        exact (Script.note_mem_notesOf hp).1 hmem
  · intro hcond s' hrun p hp hnow
    obtain ⟨hb, hsub, rfl⟩ := (run_consumeNotes_ok hloop hquery).1 hrun
    rw [hb, hsub] at hcond
    rcases hcond with h | h | h
    · cases h
    · cases h
    · rw [hconsumed]
      exact (Script.note_mem_notesOf hp).2 (h p hp hnow)

/-! ## Two records -/

namespace TwoRecords

def wallet : AccountId := ⟨false, 2⟩

def record (id : NoteId) : InputNoteRecord := ⟨⟨id, ⟨true, 1⟩, wallet, .p2id, .priv, ⟨⟨true, 1⟩, 100⟩⟩⟩

def records : List (InputNoteRecord × NoteConsumptionStatus) := [(record 1, .consumable), (record 2, .consumable)]

/-- Every query lists the two records, and every call succeeds. -/
def script (converts : InputNoteRecord → Bool) : Script where
  asset f n := .ok ⟨f, n⟩
  note _ := .ok (record 1).note
  request _ := .ok (.ownOutputNotes [])
  build _ _ := .ok ()
  sync _ := .ok ()
  query _ _ := .ok records
  converts := converts
  submit _ _ _ := .ok ()
  account _ _ := .ok none

end TwoRecords

open TwoRecords

/-- If both records convert, both are consumed. -/
theorem both_consumed : ∃ s', Op.run (consumeNotes (scriptClient (script fun _ => true)) wallet) ⟨[]⟩ = (.ok (), s') ∧
    ∀ p ∈ records, p.2 = .consumable → p.1.note ∈ s'.consumed := by
  have hloop : Op.run (pollLoop (scriptClient (script fun _ => true)) (consumeTexts wallet) wallet) ⟨[]⟩ =
      (.ok (), ⟨[.sync, .query wallet]⟩) := rfl
  have hquery : Op.run ((scriptClient (script fun _ => true)).getConsumableNotes wallet) ⟨[.sync, .query wallet]⟩ =
      (.ok records, ⟨[.sync, .query wallet, .query wallet]⟩) := rfl
  exact ⟨_, rfl, (consumeNotes_complete_iff hloop hquery).2 (.inr (.inr fun _ _ _ => rfl)) _ rfl⟩

/-- If the second record does not convert, the call ends well without it. -/
theorem second_lost : ∃ s₁ s₂ s',
    Op.run (pollLoop (scriptClient (script (· == record 1))) (consumeTexts wallet) wallet) ⟨[]⟩ = (.ok (), s₁) ∧
      Op.run ((scriptClient (script (· == record 1))).getConsumableNotes wallet) s₁ = (.ok records, s₂) ∧
      Op.run (consumeNotes (scriptClient (script (· == record 1))) wallet) ⟨[]⟩ = (.ok (), s') ∧
      (record 2, .consumable) ∈ records ∧ (record 1).note ∈ s'.consumed ∧ (record 2).note ∉ s'.consumed :=
  ⟨_, _, _, rfl, rfl, rfl, by decide, by decide, by decide⟩

end BraleMiden
