import BraleMiden.Operations.Script

/-!
# The polling loops

The loops of `consume_notes` and of step 2 of `burn_tokens`, on every sequence of answers. From a log `s`, attempt `k`
makes its two calls after `k - 1` attempts have made theirs (`CallLog.afterPolls`), so the script's answers to it are
`Script.syncAnswer` and `Script.queryAnswer`. `FirstFound S s a k l` says that attempt `k` is the first to find a note.

* `pollAttempt_script`: what one attempt does, for each kind of answer;
* `pollLoop_script`: by induction on the attempts left, the loop is left at the first attempt that finds a note, and
  ends with an error if there is none. It never falls through: the last attempt bails;
* `polling_loops`: how many syncs there are, when the notes are submitted, and which.
-/

namespace BraleMiden

open Effects

/-! ## What the log counts -/

namespace CallLog

/-- How many syncs were made. -/
def syncs (s : CallLog) : ℕ := s.calls.count .sync

/-- The notes of a consume transaction. -/
def consumeRequest : Call → Option (AccountId × List Note)
  | .submit a (.consumeNotes notes) _ => some (a, notes)
  | _ => none

/-- The consume transactions that were submitted, accepted or not. -/
def consumeRequests (s : CallLog) : List (AccountId × List Note) := s.calls.filterMap consumeRequest

/-- The log after `k` attempts for `a` that made both their calls. -/
def afterPolls (s : CallLog) (a : AccountId) : ℕ → CallLog
  | 0 => s
  | k + 1 => ((s.afterPolls a k).push .sync).push (.query a)

variable {s : CallLog} {a : AccountId}

theorem syncs_push (c : Call) : (s.push c).syncs = s.syncs + if c = .sync then 1 else 0 := by
  simp [syncs, push, List.count_append, List.count_singleton]

theorem consumeRequests_push (c : Call) :
    (s.push c).consumeRequests = s.consumeRequests ++ (consumeRequest c).toList := by
  cases h : consumeRequest c <;> simp [consumeRequests, push, h]

/-- An attempt syncs once. -/
@[simp] theorem syncs_afterPolls (k : ℕ) : (s.afterPolls a k).syncs = s.syncs + k := by
  induction k with
  | zero => rfl
  | succ k ih =>
    simp only [afterPolls, syncs_push, ih, ↓reduceIte, reduceCtorEq]
    omega

/-- Attempts submit nothing. -/
@[simp] theorem consumeRequests_afterPolls (k : ℕ) : (s.afterPolls a k).consumeRequests = s.consumeRequests := by
  induction k with
  | zero => rfl
  | succ k ih => simp [afterPolls, consumeRequests_push, consumeRequest, ih]

end CallLog

/-! ## One attempt -/

/-- The answer to the sync of attempt `k`. -/
def Script.syncAnswer (S : Script) (s : CallLog) (a : AccountId) (k : ℕ) : Except Error Unit :=
  S.sync (s.afterPolls a (k - 1)).next

/-- The answer to the query of attempt `k`. -/
def Script.queryAnswer (S : Script) (s : CallLog) (a : AccountId) (k : ℕ) :
    Except Error (List (InputNoteRecord × NoteConsumptionStatus)) :=
  S.query ((s.afterPolls a (k - 1)).next + 1) a

/-- Attempt `k` finds no note. -/
structure FindsNothing (S : Script) (s : CallLog) (a : AccountId) (k : ℕ) : Prop where
  sync : S.syncAnswer s a k = .ok ()
  query : S.queryAnswer s a k = .ok []

/-- Attempt `k` is the first to find notes, those of `l`, and no call up to it fails. -/
structure FirstFound (S : Script) (s : CallLog) (a : AccountId) (k : ℕ)
    (l : List (InputNoteRecord × NoteConsumptionStatus)) : Prop where
  pos : 0 < k
  le : k ≤ maxAttempts
  before : ∀ j, 0 < j → j < k → FindsNothing S s a j
  sync : S.syncAnswer s a k = .ok ()
  query : S.queryAnswer s a k = .ok l
  ne_nil : l ≠ []

section Loop

variable {S : Script} {s : CallLog} {t : ConsumeTexts} {a : AccountId} {i : ℕ}

/-- One attempt, after `i` others: it fails with its sync, its query or (if it is the last) an empty list, and otherwise
asks to leave the loop if and only if the list is not empty. -/
theorem pollAttempt_script (S : Script) (s : CallLog) (t : ConsumeTexts) (a : AccountId) (i : ℕ) :
    Op.run (pollAttempt (scriptClient S) t a (i + 1)) (s.afterPolls a i) =
      match S.syncAnswer s a (i + 1), S.queryAnswer s a (i + 1) with
      | .error e, _ => (.error (e.context t.sync), (s.afterPolls a i).push .sync)
      | .ok _, .error e => (.error (e.context t.query), s.afterPolls a (i + 1))
      | .ok _, .ok [] =>
        if i + 1 = maxAttempts then (.error (Error.msg t.exhausted), s.afterPolls a (i + 1))
        else (.ok false, s.afterPolls a (i + 1))
      | .ok _, .ok (_ :: _) => (.ok true, s.afterPolls a (i + 1)) := by
  have hsync : Op.run (scriptClient S).syncState (s.afterPolls a i) =
      (S.syncAnswer s a (i + 1), (s.afterPolls a i).push .sync) := rfl
  have hquery : Op.run ((scriptClient S).getConsumableNotes a) ((s.afterPolls a i).push .sync) =
      (S.queryAnswer s a (i + 1), s.afterPolls a (i + 1)) := by
    rw [scriptClient_getConsumableNotes, run_scripted, CallLog.push_next]
    exact ⟨rfl, rfl⟩
  rw [pollAttempt]
  cases hs : S.syncAnswer s a (i + 1) with
  | error e =>
    rw [hs] at hsync
    exact Op.run_bind_of_error (Op.run_mapError_error.2 ⟨e, hsync, rfl⟩) _
  | ok u =>
    rw [hs] at hsync
    rw [Op.run_bind_of_ok (run_context_ok.2 hsync)]
    cases hq : S.queryAnswer s a (i + 1) with
    | error e =>
      rw [hq] at hquery
      exact Op.run_bind_of_error (Op.run_mapError_error.2 ⟨e, hquery, rfl⟩) _
    | ok l =>
      rw [hq] at hquery
      rw [Op.run_bind_of_ok (run_context_ok.2 hquery)]
      cases l with
      | cons p l => rfl
      | nil =>
        by_cases hlast : i + 1 = maxAttempts
        · simp [hlast, bail]
        · simp [hlast]

/-! ## The whole loop -/

/-- After `i` attempts that found nothing, the first attempt that finds a note is a later one. -/
theorem FirstFound.lt {k : ℕ} {l : List (InputNoteRecord × NoteConsumptionStatus)} (h : FirstFound S s a k l)
    (hi : ∀ j, 0 < j → j ≤ i → FindsNothing S s a j) : i < k := by
  by_contra hle
  have hquery := (hi k h.pos (Nat.le_of_not_lt hle)).query
  rw [h.query] at hquery
  exact h.ne_nil (Except.ok.inj hquery)

/-- Then either the next attempt is the one, or it finds nothing too. -/
theorem FirstFound.next {k : ℕ} {l : List (InputNoteRecord × NoteConsumptionStatus)} (h : FirstFound S s a k l)
    (hi : ∀ j, 0 < j → j ≤ i → FindsNothing S s a j) :
    k = i + 1 ∨ i + 1 < maxAttempts ∧ FindsNothing S s a (i + 1) := by
  have hlt : i < k := h.lt hi
  obtain heq | hgt := Nat.eq_or_lt_of_le (Nat.succ_le_of_lt hlt)
  · exact .inl heq.symm
  · exact .inr ⟨Nat.lt_of_lt_of_le hgt h.le, h.before (i + 1) (Nat.succ_pos i) hgt⟩

/-- Where a loop that fails has stopped: after a sync or a query of some attempt. -/
def Stopped (s : CallLog) (a : AccountId) (s' : CallLog) : Prop :=
  ∃ i < maxAttempts, s' = (s.afterPolls a i).push .sync ∨ s' = s.afterPolls a (i + 1)

/-- What an attempt can do after `i` attempts that found nothing: find a note, go on, or fail for good. -/
theorem pollAttempt_cases (t : ConsumeTexts) (hlt : i < maxAttempts)
    (hi : ∀ j, 0 < j → j ≤ i → FindsNothing S s a j) :
    (∃ l, FirstFound S s a (i + 1) l ∧
        Op.run (pollAttempt (scriptClient S) t a (i + 1)) (s.afterPolls a i) = (.ok true, s.afterPolls a (i + 1))) ∨
      (FindsNothing S s a (i + 1) ∧ i + 1 < maxAttempts ∧
        Op.run (pollAttempt (scriptClient S) t a (i + 1)) (s.afterPolls a i) = (.ok false, s.afterPolls a (i + 1))) ∨
      (∀ k l, ¬ FirstFound S s a k l) ∧ ∃ e s', Stopped s a s' ∧
        Op.run (pollAttempt (scriptClient S) t a (i + 1)) (s.afterPolls a i) = (.error e, s') := by
  rw [pollAttempt_script]
  cases hs : S.syncAnswer s a (i + 1) with
  | error e =>
    refine .inr (.inr ⟨fun k l h => ?_, _, _, ⟨i, hlt, .inl rfl⟩, rfl⟩)
    obtain rfl | ⟨-, hnone⟩ := h.next hi
    · exact absurd (hs.symm.trans h.sync) nofun
    · exact absurd (hs.symm.trans hnone.sync) nofun
  | ok u =>
    cases hq : S.queryAnswer s a (i + 1) with
    | error e =>
      refine .inr (.inr ⟨fun k l h => ?_, _, _, ⟨i, hlt, .inr rfl⟩, rfl⟩)
      obtain rfl | ⟨-, hnone⟩ := h.next hi
      · exact absurd (hq.symm.trans h.query) nofun
      · exact absurd (hq.symm.trans hnone.query) nofun
    | ok l =>
      cases l with
      | cons p l =>
        have hbefore : ∀ j, 0 < j → j < i + 1 → FindsNothing S s a j := fun j hj hji =>
          hi j hj (Nat.le_of_lt_succ hji)
        exact .inl ⟨_, ⟨Nat.succ_pos i, hlt, hbefore, hs, hq, List.cons_ne_nil p l⟩, rfl⟩
      | nil =>
        by_cases hlast : i + 1 = maxAttempts
        · refine .inr (.inr ⟨fun k l h => ?_, _, _, ⟨i, hlt, .inr rfl⟩, if_pos hlast⟩)
          obtain rfl | ⟨hlt', -⟩ := h.next hi
          · exact h.ne_nil (Except.ok.inj (h.query.symm.trans hq))
          · omega
        · exact .inr (.inl ⟨⟨hs, hq⟩, Nat.lt_of_le_of_ne hlt hlast, if_neg hlast⟩)

/-- The attempts that are left, after `i` attempts that found nothing. -/
theorem pollLoop_script_from (t : ConsumeTexts) (n i : ℕ) (hn : i + (n + 1) = maxAttempts)
    (hi : ∀ j, 0 < j → j ≤ i → FindsNothing S s a j) :
    (∃ k l, FirstFound S s a k l ∧
        Op.run (forBreak (pollAttempt (scriptClient S) t a) (List.range' (i + 1) (n + 1))) (s.afterPolls a i) =
          (.ok (), s.afterPolls a k)) ∨
      (∀ k l, ¬ FirstFound S s a k l) ∧ ∃ e s', Stopped s a s' ∧
        Op.run (forBreak (pollAttempt (scriptClient S) t a) (List.range' (i + 1) (n + 1))) (s.afterPolls a i) =
          (.error e, s') := by
  -- on the number of attempts after the next one
  induction n generalizing i with
  | zero =>
    rw [List.range'_succ]
    obtain ⟨l, hl, hrun⟩ | ⟨-, hlt, -⟩ | ⟨hnone, e, s', hstop, hrun⟩ := pollAttempt_cases t (by omega) hi
    · exact .inl ⟨_, l, hl, forBreak_cons_true hrun _⟩
    · omega
    · exact .inr ⟨hnone, e, s', hstop, forBreak_cons_error hrun _⟩
  | succ n ih =>
    rw [List.range'_succ]
    obtain ⟨l, hl, hrun⟩ | ⟨hnext, -, hrun⟩ | ⟨hnone, e, s', hstop, hrun⟩ := pollAttempt_cases t (by omega) hi
    · exact .inl ⟨_, l, hl, forBreak_cons_true hrun _⟩
    · rw [forBreak_cons_false hrun]
      refine ih (i + 1) (by omega) fun j hj hji => ?_
      obtain rfl | hlt := Nat.eq_or_lt_of_le hji
      · exact hnext
      · exact hi j hj (Nat.le_of_lt_succ hlt)
    · exact .inr ⟨hnone, e, s', hstop, forBreak_cons_error hrun _⟩

/-- **The polling loop.** It is left at the first attempt that finds a note, and ends with an error if there is none. -/
theorem pollLoop_script (S : Script) (s : CallLog) (t : ConsumeTexts) (a : AccountId) :
    (∃ k l, FirstFound S s a k l ∧ Op.run (pollLoop (scriptClient S) t a) s = (.ok (), s.afterPolls a k)) ∨
      (∀ k l, ¬ FirstFound S s a k l) ∧ ∃ e s', Stopped s a s' ∧
        Op.run (pollLoop (scriptClient S) t a) s = (.error e, s') :=
  pollLoop_script_from t 119 0 rfl fun _ hj hj0 => absurd hj (Nat.not_lt.2 hj0)

theorem FirstFound.unique {k k' : ℕ} {l l' : List (InputNoteRecord × NoteConsumptionStatus)}
    (h : FirstFound S s a k l) (h' : FirstFound S s a k' l') : k = k' ∧ l = l' := by
  have hpos := h.pos
  have hpos' := h'.pos
  have hle : k - 1 < k' := h'.lt fun j hj hjk => h.before j hj (by omega)
  have hle' : k' - 1 < k := h.lt fun j hj hjk => h'.before j hj (by omega)
  obtain rfl : k = k' := by omega
  exact ⟨rfl, Except.ok.inj (h.query.symm.trans h'.query)⟩

/-- The loop is left towards the consuming code exactly when some attempt finds a note, after as many attempts. -/
theorem pollLoop_script_ok {s₁ : CallLog} : Op.run (pollLoop (scriptClient S) t a) s = (.ok (), s₁) ↔
    ∃ k l, FirstFound S s a k l ∧ s₁ = s.afterPolls a k := by
  obtain ⟨k, l, hfound, hrun⟩ | ⟨hnone, e, s', -, hrun⟩ := pollLoop_script S s t a
  · rw [hrun]
    constructor
    · intro h
      cases h
      exact ⟨k, l, hfound, rfl⟩
    · rintro ⟨k', l', hfound', rfl⟩
      obtain ⟨rfl, -⟩ := hfound.unique hfound'
      rfl
  · rw [hrun]
    constructor
    · intro h
      cases h
    · rintro ⟨k, l, hfound, -⟩
      exact absurd hfound (hnone k l)

/-! ## After the loop -/

section Consume

variable {s₁ : CallLog} {l : List (InputNoteRecord × NoteConsumptionStatus)}

/-- The log when the request for the notes of `l` has been submitted. -/
def CallLog.afterSubmit (S : Script) (a : AccountId) (l : List (InputNoteRecord × NoteConsumptionStatus))
    (s₁ : CallLog) (accepted : Bool) : CallLog :=
  ((s₁.push (.query a)).push .build).push (.submit a (.consumeNotes (S.notesOf l)) accepted)

theorem run_query (s : CallLog) :
    Op.run ((scriptClient S).getConsumableNotes a) s = (S.query s.next a, s.push (.query a)) := rfl

theorem run_build (s : CallLog) (notes : List Note) : Op.run ((scriptClient S).buildConsumeNotes notes) s =
    ((S.build s.next notes).map fun _ => .consumeNotes notes, s.push .build) := rfl

theorem run_submit (s : CallLog) (r : TransactionRequest) : Op.run ((scriptClient S).submitNewTransaction a r) s =
    (S.submit s.next a r, s.push (.submit a r (S.submit s.next a r).isOk)) := rfl

/-- If the query after the loop fails, the call ends there. -/
theorem consumeAvailable_query_error (hloop : Op.run (pollLoop (scriptClient S) t a) s = (.ok (), s₁)) {e : Error}
    (hq : S.query s₁.next a = .error e) :
    Op.run (consumeAvailable (scriptClient S) t a) s = (.error (e.context t.query), s₁.push (.query a)) := by
  have hquery : Op.run ((scriptClient S).getConsumableNotes a) s₁ = (.error e, s₁.push (.query a)) := by
    rw [run_query, hq]
  rw [consumeAvailable, Op.run_bind_of_ok hloop]
  exact Op.run_bind_of_error (Op.run_mapError_error.2 ⟨e, hquery, rfl⟩) _

/-- If the request is not built, the call ends there. -/
theorem consumeAvailable_build_error (hloop : Op.run (pollLoop (scriptClient S) t a) s = (.ok (), s₁)) {e : Error}
    (hq : S.query s₁.next a = .ok l) (hb : S.build (s₁.next + 1) (S.notesOf l) = .error e) :
    Op.run (consumeAvailable (scriptClient S) t a) s =
      (.error (e.context t.build), (s₁.push (.query a)).push .build) := by
  have hquery : Op.run ((scriptClient S).getConsumableNotes a) s₁ = (.ok l, s₁.push (.query a)) := by
    rw [run_query, hq]
  have hbuild : Op.run ((scriptClient S).buildConsumeNotes (S.notesOf l)) (s₁.push (.query a)) =
      (.error e, (s₁.push (.query a)).push .build) := by
    rw [run_build, CallLog.push_next, hb]
    rfl
  rw [consumeAvailable, Op.run_bind_of_ok hloop, Op.run_bind_of_ok (run_context_ok.2 hquery)]
  exact Op.run_bind_of_error (Op.run_mapError_error.2 ⟨e, hbuild, rfl⟩) _

/-- Otherwise the notes are submitted, and the answer is that of the submission. -/
theorem consumeAvailable_submitted (hloop : Op.run (pollLoop (scriptClient S) t a) s = (.ok (), s₁))
    (hq : S.query s₁.next a = .ok l) (hb : S.build (s₁.next + 1) (S.notesOf l) = .ok ()) :
    Op.run (consumeAvailable (scriptClient S) t a) s =
      ((S.submit (s₁.next + 2) a (.consumeNotes (S.notesOf l))).mapError (Error.context t.submit),
        s₁.afterSubmit S a l (S.submit (s₁.next + 2) a (.consumeNotes (S.notesOf l))).isOk) := by
  have hquery : Op.run ((scriptClient S).getConsumableNotes a) s₁ = (.ok l, s₁.push (.query a)) := by
    rw [run_query, hq]
  have hbuild : Op.run ((scriptClient S).buildConsumeNotes (S.notesOf l)) (s₁.push (.query a)) =
      (.ok (.consumeNotes (S.notesOf l)), (s₁.push (.query a)).push .build) := by
    rw [run_build, CallLog.push_next, hb]
    rfl
  have hnext : ((s₁.push (.query a)).push .build).next = s₁.next + 2 := by simp
  rw [consumeAvailable, Op.run_bind_of_ok hloop, Op.run_bind_of_ok (run_context_ok.2 hquery)]
  refine (Op.run_bind_of_ok (run_context_ok.2 hbuild) _).trans ?_
  rw [context, Op.mapError, Op.run_mk, run_submit, hnext]
  cases S.submit (s₁.next + 2) a (.consumeNotes (S.notesOf l)) <;> rfl

end Consume

/-! ### Where a failed loop has stopped -/

theorem Stopped.syncs_le {s' : CallLog} (h : Stopped s a s') : s'.syncs ≤ s.syncs + maxAttempts := by
  obtain ⟨i, hi, rfl | rfl⟩ := h
  · rw [CallLog.syncs_push, CallLog.syncs_afterPolls]
    simp only [↓reduceIte]
    omega
  · rw [CallLog.syncs_afterPolls]
    omega

theorem Stopped.consumeRequests_eq {s' : CallLog} (h : Stopped s a s') : s'.consumeRequests = s.consumeRequests := by
  obtain ⟨i, -, rfl | rfl⟩ := h
  · simp [CallLog.consumeRequests_push, CallLog.consumeRequest]
  · simp

end Loop

/-! ## What a call does -/

/-- Nothing changes the client's store between the last query of the loop and the one right after it: if both succeed,
they give the same list. -/
def Undisturbed (S : Script) (s : CallLog) (a : AccountId) : Prop :=
  ∀ k l l', FirstFound S s a k l → S.query (s.afterPolls a k).next a = .ok l' → l' = l

/-- Attempt `k` is the first to find notes, the query after it succeeds, and the request is built. -/
structure Proceeds (S : Script) (s : CallLog) (a : AccountId) (k : ℕ)
    (l : List (InputNoteRecord × NoteConsumptionStatus)) : Prop where
  found : FirstFound S s a k l
  again : S.query (s.afterPolls a k).next a = .ok l
  built : S.build ((s.afterPolls a k).next + 1) (S.notesOf l) = .ok ()

/-- A consumption from the log `s` with the end `out`: at most 120 syncs; the loop is left exactly when some attempt is
the first to find notes, after as many syncs; if the call then gets to it, one transaction is submitted, with those of
these notes that convert, in their order, and the call ends well if it is accepted; in every other case the call fails,
and no consume transaction was submitted. -/
structure PollsOnce (S : Script) (t : ConsumeTexts) (a : AccountId) (s : CallLog)
    (out : Except Error Unit × CallLog) : Prop where
  syncs_le : out.2.syncs ≤ s.syncs + maxAttempts
  leaves : ∀ s₁, Op.run (pollLoop (scriptClient S) t a) s = (.ok (), s₁) ↔
    ∃ k l, FirstFound S s a k l ∧ s₁ = s.afterPolls a k
  submits : ∀ k l, Proceeds S s a k l → (S.notesOf l).Sublist (l.map fun p => p.1.note) ∧
    ((l.map fun p => p.1.note).Nodup → (S.notesOf l).Nodup) ∧ ∃ accepted,
      out.2 = (((s.afterPolls a k).push (.query a)).push .build).push
        (.submit a (.consumeNotes (S.notesOf l)) accepted) ∧ (out.1 = .ok () ↔ accepted = true)
  fails : (∀ k l, ¬ Proceeds S s a k l) → (∃ e, out.1 = .error e) ∧ out.2.consumeRequests = s.consumeRequests

section Calls

variable {S : Script} {s : CallLog}

/-- The notes of the transaction are some of the list, in its order. -/
theorem Script.notesOf_sublist (S : Script) (l : List (InputNoteRecord × NoteConsumptionStatus)) :
    (S.notesOf l).Sublist (l.map fun p => p.1.note) := by
  induction l with
  | nil => exact List.Sublist.slnil
  | cons p l ih =>
    have hcons : S.notesOf (p :: l) = if S.converts p.1 then p.1.note :: S.notesOf l else S.notesOf l := by
      simp only [notesOf, List.filterMap_cons, Client.tryInto, scriptClient_converts]
      split <;> simp_all
    rw [hcons, List.map_cons]
    split
    · exact ih.cons_cons _
    · exact ih.cons _

variable {t : ConsumeTexts} {a : AccountId}

/-- A consumption that fails before its submission. -/
theorem PollsOnce.of_error {s' : CallLog} {e : Error} (hno : ∀ k l, ¬ Proceeds S s a k l)
    (hsyncs : s'.syncs ≤ s.syncs + maxAttempts) (hreq : s'.consumeRequests = s.consumeRequests) :
    PollsOnce S t a s (.error e, s') where
  syncs_le := hsyncs
  leaves _ := pollLoop_script_ok
  submits k l h := absurd h (hno k l)
  fails _ := ⟨⟨e, rfl⟩, hreq⟩

/-- **One consumption.** -/
theorem consumeAvailable_pollsOnce (hu : Undisturbed S s a) :
    PollsOnce S t a s (Op.run (consumeAvailable (scriptClient S) t a) s) := by
  obtain ⟨k, l, hfound, hloop⟩ | ⟨hnone, e, s', hstop, hloop⟩ := pollLoop_script S s t a
  · have hk : k ≤ maxAttempts := hfound.le
    cases hq : S.query (s.afterPolls a k).next a with
    | error e =>
      rw [consumeAvailable_query_error hloop hq]
      refine .of_error (fun k' l' h => ?_) ?_ ?_
      · obtain ⟨rfl, rfl⟩ := hfound.unique h.found
        exact absurd (hq.symm.trans h.again) nofun
      · simpa [CallLog.syncs_push] using hk
      · simp [CallLog.consumeRequests_push, CallLog.consumeRequest]
    | ok l' =>
      obtain rfl : l' = l := hu k l l' hfound hq
      cases hb : S.build ((s.afterPolls a k).next + 1) (S.notesOf l') with
      | error e =>
        rw [consumeAvailable_build_error hloop hq hb]
        refine .of_error (fun k' l'' h => ?_) ?_ ?_
        · obtain ⟨rfl, rfl⟩ := hfound.unique h.found
          exact absurd (hb.symm.trans h.built) nofun
        · simpa [CallLog.syncs_push] using hk
        · simp [CallLog.consumeRequests_push, CallLog.consumeRequest]
      | ok u =>
        rw [consumeAvailable_submitted hloop hq hb]
        refine ⟨?_, fun _ => pollLoop_script_ok, fun k' l'' h => ?_, fun hno => ?_⟩
        · simpa [CallLog.afterSubmit, CallLog.syncs_push] using hk
        · obtain ⟨rfl, rfl⟩ := hfound.unique h.found
          refine ⟨S.notesOf_sublist l', (S.notesOf_sublist l').nodup, _, rfl, ?_⟩
          cases S.submit ((s.afterPolls a k).next + 2) a (.consumeNotes (S.notesOf l')) with
          | error e => exact ⟨nofun, nofun⟩
          | ok v => exact ⟨fun _ => rfl, fun _ => rfl⟩
        · exact absurd ⟨hfound, hq, hb⟩ (hno k l')
  · have hrun : Op.run (consumeAvailable (scriptClient S) t a) s = (.error e, s') := Op.run_bind_of_error hloop _
    rw [hrun]
    exact .of_error (fun k l h => hnone k l h.found) hstop.syncs_le hstop.consumeRequests_eq

/-- Calls that neither sync nor submit a consumption. -/
theorem scripted_keeps {α : Type} {r : ℕ → Except Error α} {c : ℕ → Call}
    (h : ∀ k, c k ≠ .sync ∧ CallLog.consumeRequest (c k) = none) :
    Keeps (Agrees fun s : CallLog => (s.syncs, s.consumeRequests)) (scripted r c) := by
  intro s
  show ((s.push (c s.next)).syncs, (s.push (c s.next)).consumeRequests) = (s.syncs, s.consumeRequests)
  simp [CallLog.syncs_push, CallLog.consumeRequests_push, h]

/-- The first step of a burn neither syncs nor submits a consumption. -/
theorem createBurnOutput_syncs (snd i : AccountId) (n : ℕ) :
    Keeps (Agrees fun s : CallLog => (s.syncs, s.consumeRequests)) (createBurnOutput (scriptClient S) snd i n) := by
  have hbuild : ∀ {α : Type} (r : ℕ → Except Error α),
      Keeps (Agrees fun s : CallLog => (s.syncs, s.consumeRequests)) (scripted r fun _ => .build) := fun r =>
    scripted_keeps fun _ => ⟨nofun, rfl⟩
  refine .bind ((Keeps.ofExcept _).mapError _) fun asset => .bind ((hbuild _).mapError _) fun note => ?_
  have hown : Keeps (Agrees fun s : CallLog => (s.syncs, s.consumeRequests))
      ((scriptClient S).buildOwnOutputNotes [note]) := hbuild _
  refine Keeps.bind_of_run (hown.mapError _) fun request s s' hrun => ?_
  -- the request is for the burn note
  obtain rfl : request = .ownOutputNotes [note] := by
    obtain ⟨-, hreq, -⟩ := run_built_ok.1 (run_context_ok.1 hrun)
    exact hreq
  have hsubmit : Keeps (Agrees fun s : CallLog => (s.syncs, s.consumeRequests))
      ((scriptClient S).submitNewTransaction snd (.ownOutputNotes [note])) := scripted_keeps fun _ => ⟨nofun, rfl⟩
  exact hsubmit.mapError _

end Calls

/-- **The polling loops.** On every sequence of answers, `consume_notes` is one consumption; and `burn_tokens` fails in
its first step, without a sync or a consume transaction, or is one consumption after it. -/
theorem polling_loops (S : Script) (s : CallLog) :
    (∀ a, Undisturbed S s a → PollsOnce S (consumeTexts a) a s (Op.run (consumeNotes (scriptClient S) a) s)) ∧
    ∀ snd i n, (Op.run (createBurnOutput (scriptClient S) snd i n) s).2.syncs = s.syncs ∧
      (Op.run (createBurnOutput (scriptClient S) snd i n) s).2.consumeRequests = s.consumeRequests ∧
      (∀ e s₁, Op.run (createBurnOutput (scriptClient S) snd i n) s = (.error e, s₁) →
        Op.run (burnTokens (scriptClient S) snd i n) s = (.error e, s₁)) ∧
      ∀ s₁, Op.run (createBurnOutput (scriptClient S) snd i n) s = (.ok (), s₁) → Undisturbed S s₁ i →
        PollsOnce S burnTexts i s₁ (Op.run (burnTokens (scriptClient S) snd i n) s) := by
  refine ⟨fun a hu => consumeAvailable_pollsOnce hu, fun snd i n => ?_⟩
  obtain ⟨hsyncs, hreq⟩ := Prod.mk.inj (createBurnOutput_syncs (S := S) snd i n s)
  refine ⟨hsyncs, hreq, fun e s₁ h => Op.run_bind_of_error h _, fun s₁ h hu => ?_⟩
  rw [burnTokens, Op.run_bind_of_ok h]
  exact consumeAvailable_pollsOnce hu

/-! ## The last attempt -/

namespace TwoRecords

/-- Every call succeeds, and the two records are listed from call 239 on: the query of attempt 120. -/
def lateScript : Script := { script fun _ => true with query := fun k _ => .ok (if k < 239 then [] else records) }

theorem next_afterPolls (s : CallLog) (a : AccountId) (k : ℕ) : (s.afterPolls a k).next = s.next + 2 * k := by
  induction k with
  | zero => rfl
  | succ k ih =>
    simp only [CallLog.afterPolls, CallLog.push_next, ih]
    omega

theorem late_query (k : ℕ) :
    lateScript.queryAnswer ⟨[]⟩ wallet k = .ok (if 2 * (k - 1) + 1 < 239 then [] else records) := by
  show Except.ok (if (CallLog.afterPolls ⟨[]⟩ wallet (k - 1)).next + 1 < 239 then [] else records) = _
  rw [next_afterPolls]
  simp [CallLog.next]

theorem late_firstFound : FirstFound lateScript ⟨[]⟩ wallet 120 records where
  pos := by decide
  le := le_refl _
  before j _ hj := ⟨rfl, by rw [late_query, if_pos (by omega)]⟩
  sync := rfl
  query := late_query 120
  ne_nil := nofun

theorem late_again : lateScript.query (CallLog.afterPolls ⟨[]⟩ wallet 120).next wallet = .ok records := by
  rw [next_afterPolls]
  rfl

end TwoRecords

open TwoRecords in
/-- Notes that are first seen at the last attempt are all submitted, after 120 syncs. -/
theorem late_notes_submitted :
    (Op.run (consumeNotes (scriptClient lateScript) wallet) ⟨[]⟩).2.consumeRequests =
      [(wallet, [(record 1).note, (record 2).note])] ∧
    (Op.run (consumeNotes (scriptClient lateScript) wallet) ⟨[]⟩).2.syncs = 120 := by
  have hu : Undisturbed lateScript ⟨[]⟩ wallet := by
    intro k l l' hfound hagain
    obtain ⟨rfl, rfl⟩ := late_firstFound.unique hfound
    exact Except.ok.inj (hagain.symm.trans late_again)
  have hpolls := (polling_loops lateScript ⟨[]⟩).1 wallet hu
  obtain ⟨-, -, accepted, hlog, -⟩ := hpolls.submits 120 records ⟨late_firstFound, late_again, rfl⟩
  have hnotes : lateScript.notesOf records = [(record 1).note, (record 2).note] := rfl
  have hempty : (CallLog.mk []).consumeRequests = [] ∧ (CallLog.mk []).syncs = 0 := ⟨rfl, rfl⟩
  rw [hlog, hnotes]
  refine ⟨?_, ?_⟩
  · simp [CallLog.consumeRequests_push, CallLog.consumeRequest, hempty]
  · simp [CallLog.syncs_push, hempty]

end BraleMiden
