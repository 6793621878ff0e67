import Mathlib.Data.List.MinMax
import BraleMiden.Lib.Accounting
import BraleMiden.Miden.Types

/-!
# The notes of the chain

Every note is pending, committed at some block, or consumed. A `NoteBook` lists the notes in the order they were
created, each id once: a book with two notes of one id cannot be built.

* `insert`, `commit`, `markConsumed`: a note is created, a block includes some pending notes, notes are consumed;
* `unconsumed`: the notes that are still pending or committed, with the effect of the three on it
  (`unconsumed_insert`, `sameNotes_commit`, `unconsumed_markConsumed`);
* `total g`: what the unconsumed notes add up to under `g`, and `total_markConsumed`: consuming notes takes exactly
  their share;
* `SameNotes`: two books that differ only in which notes are committed. A sync relates the book before to the one
  after.
-/

namespace BraleMiden

open Accounting

/-- Whose transaction created a note. -/
abbrev ClientId := ℕ

/-- The life of a note: in the end a transaction of some account consumes it. -/
inductive NoteStatus
  | pending
  | committed (block : ℕ)
  | consumed (account : AccountId)
deriving DecidableEq, Repr

namespace NoteStatus

def isConsumed : NoteStatus → Bool
  | .consumed _ => true
  | _ => false

/-- The account that has consumed the note. -/
def consumer : NoteStatus → Option AccountId
  | .consumed a => some a
  | _ => none

def isCommitted : NoteStatus → Bool
  | .committed _ => true
  | _ => false

theorem isConsumed_of_isCommitted {st : NoteStatus} (h : st.isCommitted = true) : st.isConsumed = false := by
  cases st <;> simp_all [isCommitted, isConsumed]

theorem isConsumed_eq (st : NoteStatus) : st.isConsumed = st.consumer.isSome := by cases st <;> rfl

end NoteStatus

/-- A note of the chain. -/
structure NoteEntry where
  note : Note
  creator : ClientId
  status : NoteStatus
deriving DecidableEq, Repr

/-- All notes ever created, oldest first, each id once. -/
structure NoteBook where
  entries : List NoteEntry
  nodup : (entries.map fun e => e.note.id).Nodup

namespace NoteBook

/-- No note was created yet. -/
def empty : NoteBook := ⟨[], List.nodup_nil⟩

/-- The ids in use. -/
def ids (b : NoteBook) : List NoteId := b.entries.map fun e => e.note.id

/-- An id that no note has: the serial numbers drawn from the client's generator do not collide. -/
def nextId (b : NoteBook) : NoteId := b.ids.foldr max 0 + 1

/-- The notes that are not consumed yet. -/
def unconsumed (b : NoteBook) : List Note := (b.entries.filter fun e => !e.status.isConsumed).map (·.note)

/-- The unconsumed notes that `c` created. -/
def unconsumedBy (c : ClientId) (b : NoteBook) : List Note :=
  (b.entries.filter fun e => decide (e.creator = c) && !e.status.isConsumed).map (·.note)

/-- The committed, unconsumed notes that satisfy `p`. -/
def committed (p : Note → Bool) (b : NoteBook) : List Note :=
  (b.entries.filter fun e => e.status.isCommitted && p e.note).map (·.note)

/-- `n` is in the book and consumed. -/
def IsConsumed (b : NoteBook) (n : Note) : Prop := ∃ e ∈ b.entries, e.note = n ∧ e.status.isConsumed = true

instance (b : NoteBook) (n : Note) : Decidable (b.IsConsumed n) :=
  inferInstanceAs (Decidable (∃ e ∈ b.entries, _ ∧ _))

/-- `n` is in the book, and `a` has consumed it. -/
def IsConsumedBy (b : NoteBook) (a : AccountId) (n : Note) : Prop :=
  ∃ e ∈ b.entries, e.note = n ∧ e.status = .consumed a

instance (b : NoteBook) (a : AccountId) (n : Note) : Decidable (b.IsConsumedBy a n) :=
  inferInstanceAs (Decidable (∃ e ∈ b.entries, _ ∧ _))

/-- The notes that are consumed. -/
def consumed (b : NoteBook) : List Note := (b.entries.filter fun e => e.status.isConsumed).map (·.note)

/-! ## Changes -/

/-- A new pending note of `c`, with an unused id. -/
def insert (b : NoteBook) (n : Note) (c : ClientId) (h : n.id ∉ b.ids) : NoteBook where
  entries := b.entries ++ [⟨n, c, .pending⟩]
  nodup := by
    rw [List.map_append, List.map_singleton, List.nodup_append]
    refine ⟨b.nodup, List.nodup_singleton _, ?_⟩
    rintro x hx y hy rfl
    rw [List.mem_singleton] at hy
    exact h (hy ▸ hx)

/-- The status of every note replaced by `f`. -/
def setStatus (f : NoteEntry → NoteStatus) (b : NoteBook) : NoteBook where
  entries := b.entries.map fun e => { e with status := f e }
  nodup := by
    rw [List.map_map]
    exact b.nodup

/-- A block that includes the pending notes with `incl`. -/
def commit (incl : NoteId → Bool) (block : ℕ) : NoteBook → NoteBook :=
  setStatus fun e => match e.status with
    | .pending => if incl e.note.id then .committed block else .pending
    | st => st

/-- The notes `ns` are consumed by `a`. -/
def markConsumed (a : AccountId) (ns : List Note) : NoteBook → NoteBook :=
  setStatus fun e => if e.note ∈ ns then .consumed a else e.status

variable {b b' : NoteBook}

theorem nextId_notMem (b : NoteBook) : b.nextId ∉ b.ids := by
  intro h
  have hle : ∀ {l : List ℕ} {x : ℕ}, x ∈ l → x ≤ l.foldr max 0 := fun {l x} hx =>
    List.le_max_of_le hx (Nat.le_refl x)
  have := hle h
  unfold nextId at this
  omega

theorem mem_ids {e : NoteEntry} (h : e ∈ b.entries) : e.note.id ∈ b.ids := List.mem_map_of_mem h

/-- A note of the book has one entry. -/
theorem entry_unique {e e' : NoteEntry} (h : e ∈ b.entries) (h' : e' ∈ b.entries) (hid : e.note.id = e'.note.id) :
    e = e' :=
  List.inj_on_of_nodup_map b.nodup h h' hid

theorem mem_unconsumed {n : Note} :
    n ∈ b.unconsumed ↔ ∃ e ∈ b.entries, e.note = n ∧ e.status.isConsumed = false := by
  simp only [unconsumed, List.mem_map, List.mem_filter, Bool.not_eq_true']
  exact ⟨fun ⟨e, ⟨h, hs⟩, hn⟩ => ⟨e, h, hn, hs⟩, fun ⟨e, h, hn, hs⟩ => ⟨e, ⟨h, hs⟩, hn⟩⟩

theorem mem_committed {p : Note → Bool} {n : Note} :
    n ∈ b.committed p ↔ p n = true ∧ ∃ e ∈ b.entries, e.note = n ∧ e.status.isCommitted = true := by
  simp only [committed, List.mem_map, List.mem_filter, Bool.and_eq_true]
  constructor
  · rintro ⟨e, ⟨h, hs, hp⟩, rfl⟩
    exact ⟨hp, e, h, rfl, hs⟩
  · rintro ⟨hp, e, h, rfl, hs⟩
    exact ⟨e, ⟨h, hs, hp⟩, rfl⟩

/-- Notes with distinct ids are distinct. -/
theorem nodup_notes (b : NoteBook) : (b.entries.map (·.note)).Nodup :=
  List.Nodup.of_map (fun n : Note => n.id) (by rw [List.map_map]; exact b.nodup)

theorem nodup_unconsumed (b : NoteBook) : b.unconsumed.Nodup :=
  (b.nodup_notes).sublist (List.filter_sublist.map _)

theorem nodup_committed (p : Note → Bool) (b : NoteBook) : (b.committed p).Nodup :=
  (b.nodup_notes).sublist (List.filter_sublist.map _)

theorem mem_consumed {n : Note} : n ∈ b.consumed ↔ b.IsConsumed n := by
  simp only [consumed, IsConsumed, List.mem_map, List.mem_filter]
  exact ⟨fun ⟨e, ⟨h, hs⟩, hn⟩ => ⟨e, h, hn, hs⟩, fun ⟨e, h, hn, hs⟩ => ⟨e, ⟨h, hs⟩, hn⟩⟩

theorem nodup_consumed (b : NoteBook) : b.consumed.Nodup :=
  (b.nodup_notes).sublist (List.filter_sublist.map _)

theorem committed_subset_unconsumed {p : Note → Bool} : b.committed p ⊆ b.unconsumed := fun n h => by
  obtain ⟨-, e, he, hn, hs⟩ := mem_committed.1 h
  exact mem_unconsumed.2 ⟨e, he, hn, NoteStatus.isConsumed_of_isCommitted hs⟩

/-- No note is both consumed and unconsumed. -/
theorem not_isConsumed {n : Note} (h : n ∈ b.unconsumed) : ¬ b.IsConsumed n := by
  obtain ⟨e, he, rfl, hs⟩ := mem_unconsumed.1 h
  rintro ⟨e', he', hn, hs'⟩
  rw [entry_unique he' he (congrArg Note.id hn), hs] at hs'
  cases hs'

/-- The notes `c` created are among the unconsumed ones. -/
theorem unconsumedBy_sublist (c : ClientId) (b : NoteBook) : (b.unconsumedBy c).Sublist b.unconsumed := by
  refine List.Sublist.map _ ?_
  have h : (b.entries.filter fun e => decide (e.creator = c) && !e.status.isConsumed) =
      (b.entries.filter fun e => !e.status.isConsumed).filter fun e => decide (e.creator = c) := by
    rw [List.filter_filter]
  rw [h]
  exact List.filter_sublist

/-! ## Effect on the unconsumed notes -/

theorem unconsumed_insert {n : Note} {c : ClientId} {h : n.id ∉ b.ids} :
    (b.insert n c h).unconsumed = b.unconsumed ++ [n] := by
  simp [unconsumed, insert, NoteStatus.isConsumed]

/-- A note with an unused id is not among the unconsumed ones. -/
theorem notMem_unconsumed {n : Note} (h : n.id ∉ b.ids) : n ∉ b.unconsumed := fun hn => by
  obtain ⟨e, he, rfl, -⟩ := mem_unconsumed.1 hn
  exact h (mem_ids he)

theorem unconsumedBy_insert {n : Note} {c : ClientId} {h : n.id ∉ b.ids} :
    (b.insert n c h).unconsumedBy c = b.unconsumedBy c ++ [n] := by
  simp [unconsumedBy, insert, NoteStatus.isConsumed]

theorem committed_insert {p : Note → Bool} {n : Note} {c : ClientId} {h : n.id ∉ b.ids} :
    (b.insert n c h).committed p = b.committed p := by
  simp [committed, insert, NoteStatus.isCommitted]

/-- A new note is not consumed. -/
theorem isConsumed_insert {n m : Note} {c : ClientId} {h : n.id ∉ b.ids} :
    (b.insert n c h).IsConsumed m ↔ b.IsConsumed m := by
  simp only [← mem_consumed, consumed, insert, List.filter_append, List.map_append]
  simp [NoteStatus.isConsumed]

/-- A block keeps the entries, apart from the status of pending notes that it includes. -/
theorem mem_entries_commit {incl : NoteId → Bool} {k : ℕ} {e' : NoteEntry} (h : e' ∈ (b.commit incl k).entries) :
    ∃ e ∈ b.entries, e'.note = e.note ∧ e'.creator = e.creator ∧
      (e'.status = e.status ∨ e.status = .pending ∧ e'.status = .committed k) := by
  simp only [commit, setStatus, List.mem_map] at h
  obtain ⟨e, he, rfl⟩ := h
  refine ⟨e, he, rfl, rfl, ?_⟩
  rcases hs : e.status with _ | j | _
  · by_cases hi : incl e.note.id
    · exact .inr ⟨rfl, by simp [hi]⟩
    · exact .inl (by simp [hi])
  · exact .inl rfl
  · exact .inl rfl

/-- After a block, a note is committed if it was, or if it was pending and the block includes it. -/
theorem mem_committed_commit {p : Note → Bool} {incl : NoteId → Bool} {k : ℕ} {n : Note} :
    n ∈ (b.commit incl k).committed p ↔ p n = true ∧ ∃ e ∈ b.entries, e.note = n ∧
      (e.status.isCommitted = true ∨ e.status = .pending ∧ incl n.id = true) := by
  rw [mem_committed]
  simp only [commit, setStatus, List.mem_map]
  constructor
  · rintro ⟨hp, _, ⟨e, he, rfl⟩, rfl, hs⟩
    refine ⟨hp, e, he, rfl, ?_⟩
    rcases h : e.status with _ | k | _
    · by_cases hi : incl e.note.id
      · exact .inr ⟨rfl, hi⟩
      · simp [h, hi, NoteStatus.isCommitted] at hs
    · exact .inl rfl
    · simp [h, NoteStatus.isCommitted] at hs
  · rintro ⟨hp, e, he, rfl, hs⟩
    refine ⟨hp, _, ⟨e, he, rfl⟩, rfl, ?_⟩
    rcases hs with hs | ⟨hs, hi⟩
    · rcases h : e.status with _ | k | _ <;> simp_all [NoteStatus.isCommitted]
    · simp [hs, hi, NoteStatus.isCommitted]

/-- What is committed stays committed. -/
theorem committed_subset_commit {p : Note → Bool} {incl : NoteId → Bool} {k : ℕ} :
    b.committed p ⊆ (b.commit incl k).committed p := fun n h => by
  obtain ⟨hp, e, he, hn, hs⟩ := mem_committed.1 h
  exact mem_committed_commit.2 ⟨hp, e, he, hn, .inl hs⟩

/-- If nothing is committed, a block can show exactly one of the waiting notes. -/
theorem mem_committed_commit_single {p : Note → Bool} {k : ℕ} {n₀ n : Note} (hnil : b.committed p = [])
    (h₀ : n₀ ∈ b.unconsumed) (hp₀ : p n₀ = true) : n ∈ (b.commit (· == n₀.id) k).committed p ↔ n = n₀ := by
  have hnone : ∀ e ∈ b.entries, p e.note = true → e.status.isCommitted = false := fun e he hp =>
    Bool.eq_false_iff.2 fun hc => List.ne_nil_of_mem (mem_committed.2 ⟨hp, e, he, rfl, hc⟩) hnil
  obtain ⟨e₀, he₀, rfl, hs₀⟩ := mem_unconsumed.1 h₀
  rw [mem_committed_commit]
  constructor
  · rintro ⟨hp, e, he, rfl, hc | ⟨-, hid⟩⟩
    · rw [hnone e he hp] at hc
      cases hc
    · rw [entry_unique he he₀ (beq_iff_eq.1 hid)]
  · rintro rfl
    refine ⟨hp₀, e₀, he₀, rfl, .inr ⟨?_, beq_self_eq_true _⟩⟩
    have hc := hnone e₀ he₀ hp₀
    rcases h : e₀.status with _ | k | _ <;> simp_all [NoteStatus.isCommitted, NoteStatus.isConsumed]

theorem unconsumed_markConsumed (a : AccountId) (ns : List Note) (b : NoteBook) :
    (b.markConsumed a ns).unconsumed = b.unconsumed.filter (· ∉ ns) := by
  simp only [unconsumed, markConsumed, setStatus, List.filter_map, List.map_map, List.filter_filter]
  congr 1
  refine List.filter_congr fun e _ => ?_
  by_cases h : e.note ∈ ns <;> simp [h, NoteStatus.isConsumed]

/-- Consumed notes stay consumed, and those of `ns` become consumed. -/
theorem isConsumed_markConsumed {a : AccountId} {ns : List Note} {n : Note} :
    (b.markConsumed a ns).IsConsumed n ↔ b.IsConsumed n ∨ (n ∈ ns ∧ ∃ e ∈ b.entries, e.note = n) := by
  simp only [IsConsumed, markConsumed, setStatus, List.mem_map]
  constructor
  · rintro ⟨_, ⟨e, he, rfl⟩, rfl, hs⟩
    by_cases h : e.note ∈ ns
    · exact .inr ⟨h, e, he, rfl⟩
    · exact .inl ⟨e, he, rfl, by simpa [h] using hs⟩
  · rintro (⟨e, he, rfl, hs⟩ | ⟨hn, e, he, rfl⟩)
    · refine ⟨_, ⟨e, he, rfl⟩, rfl, ?_⟩
      by_cases h : e.note ∈ ns
      · simp [h, NoteStatus.isConsumed]
      · simp [h, hs]
    · exact ⟨_, ⟨e, he, rfl⟩, rfl, by simp [hn, NoteStatus.isConsumed]⟩

/-! ## Totals over the unconsumed notes -/

section Total

variable {M : Type} [AddCommMonoid M]

/-- What the unconsumed notes add up to under `g`. -/
def total (g : Note → M) (b : NoteBook) : M := (b.unconsumed.map g).sum

@[simp] theorem total_empty (g : Note → M) : empty.total g = 0 := rfl

theorem total_insert (g : Note → M) {n : Note} {c : ClientId} {h : n.id ∉ b.ids} :
    (b.insert n c h).total g = b.total g + g n := by
  simp [total, unconsumed_insert]

/-- **Consuming notes takes exactly their share of the total.** -/
theorem total_markConsumed (g : Note → M) (a : AccountId) {ns : List Note} (hn : ns.Nodup)
    (hsub : ns ⊆ b.unconsumed) : b.total g = (b.markConsumed a ns).total g + (ns.map g).sum := by
  rw [total, total, unconsumed_markConsumed]
  exact sum_map_split g b.nodup_unconsumed hn hsub

end Total

/-! ## Books that differ only in what is committed -/

/-- What a sync leaves alone: the notes, their creators, and who has consumed which. -/
def SameNotes (b b' : NoteBook) : Prop :=
  b'.entries.map (fun e => (e.note, e.creator, e.status.consumer)) =
    b.entries.map fun e => (e.note, e.creator, e.status.consumer)

theorem SameNotes.refl (b : NoteBook) : SameNotes b b := rfl

theorem SameNotes.trans {b₁ b₂ b₃ : NoteBook} (h : SameNotes b₁ b₂) (h' : SameNotes b₂ b₃) : SameNotes b₁ b₃ :=
  Eq.trans h' h

theorem sameNotes_commit (incl : NoteId → Bool) (block : ℕ) (b : NoteBook) : SameNotes b (b.commit incl block) := by
  simp only [SameNotes, commit, setStatus, List.map_map]
  refine List.map_congr_left fun e _ => ?_
  rcases h : e.status with _ | k | _
  · by_cases hi : incl e.note.id <;> simp [h, hi, NoteStatus.consumer]
  · simp [h, NoteStatus.consumer]
  · simp [h, NoteStatus.consumer]

theorem SameNotes.ids_eq (h : SameNotes b b') : b'.ids = b.ids := by
  have := congrArg (List.map fun p : Note × ClientId × Option AccountId => p.1.id) h
  rw [List.map_map, List.map_map] at this
  exact this

theorem SameNotes.unconsumed_eq (h : SameNotes b b') : b'.unconsumed = b.unconsumed := by
  have := congrArg (fun l : List (Note × ClientId × Option AccountId) => (l.filter fun p => !p.2.2.isSome).map (·.1)) h
  simp only [List.filter_map, List.map_map, Function.comp_def, ← NoteStatus.isConsumed_eq] at this
  exact this

theorem SameNotes.consumed_eq (h : SameNotes b b') : b'.consumed = b.consumed := by
  have := congrArg (fun l : List (Note × ClientId × Option AccountId) => (l.filter fun p => p.2.2.isSome).map (·.1)) h
  simp only [List.filter_map, List.map_map, Function.comp_def, ← NoteStatus.isConsumed_eq] at this
  exact this

theorem SameNotes.isConsumed_iff (h : SameNotes b b') {n : Note} : b'.IsConsumed n ↔ b.IsConsumed n := by
  rw [← mem_consumed, ← mem_consumed, h.consumed_eq]

theorem SameNotes.unconsumedBy_eq (h : SameNotes b b') (c : ClientId) : b'.unconsumedBy c = b.unconsumedBy c := by
  have := congrArg
    (fun l : List (Note × ClientId × Option AccountId) =>
      (l.filter fun p => decide (p.2.1 = c) && !p.2.2.isSome).map (·.1)) h
  simp only [List.filter_map, List.map_map, Function.comp_def, ← NoteStatus.isConsumed_eq] at this
  exact this

theorem SameNotes.total_eq {M : Type} [AddCommMonoid M] (h : SameNotes b b') (g : Note → M) :
    b'.total g = b.total g := by
  rw [total, h.unconsumed_eq, total]

end NoteBook

end BraleMiden
