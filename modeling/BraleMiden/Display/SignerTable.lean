import Mathlib.Data.List.Forall2
import BraleMiden.Display

/-!
# What a signer table says

`print_signer_table` prints one row for each signer and then counts. A commitment of more than 12 bytes is cut after its
first six bytes and before its last four; where this falls inside a character, the program panics in the middle of the
table.

* `commitDisplay_eq_ok`: what is shown of a commitment, and when it can be shown;
* `run_signerRows_cases`: the loop prints the rows up to the first commitment that cannot be cut;
* `signerTable_says`: so a table is either whole, with the number of signed rows and the right verdict under it, or ends
  there.
-/

namespace BraleMiden.Display

open Effects Text

/-! ## A commitment -/

/-- What is shown of a commitment: all of it, or its first six and its last four bytes. -/
def Shows (s d : String) : Prop :=
  if s.utf8ByteSize ≤ 12 then d = s
  else ∃ first middle last : String, s = first ++ middle ++ last ∧ first.utf8ByteSize = 6 ∧ last.utf8ByteSize = 4 ∧
    d = first ++ "…" ++ last

section Commitment

variable {s d : String}

/-- Two cuts of a text: the one after more bytes comes later. -/
theorem middle_of_cuts {xs ys xs' ys' : List Char} (h : xs ++ ys = xs' ++ ys') (hle : byteLength xs ≤ byteLength xs') :
    ∃ zs, ys = zs ++ ys' := by
  rcases List.append_eq_append_iff.1 h with ⟨zs, -, hys⟩ | ⟨zs, hxs, hys⟩
  · exact ⟨zs, hys⟩
  · rw [hxs, byteLength_append] at hle
    have hzs := length_le_byteLength zs
    have hnil : zs = [] := List.length_eq_zero_iff.1 (by omega)
    exact ⟨[], by rw [hys, hnil]; rfl⟩

/-- A long text that can be cut is its first six bytes, the bytes between, and its last four. -/
theorem shows_of_cuts {first rest front last : List Char} (hlong : 12 < s.utf8ByteSize)
    (hfirst : splitBytes s.toList 6 = some (first, rest))
    (hlast : splitBytes s.toList (s.utf8ByteSize - 4) = some (front, last)) :
    Shows s (String.ofList first ++ "…" ++ String.ofList last) := by
  obtain ⟨hs, hsix⟩ := splitBytes_some hfirst
  obtain ⟨hs', hfour⟩ := splitBytes_some hlast
  obtain ⟨middle, hrest⟩ := middle_of_cuts (hs.symm.trans hs') (by omega)
  have hsize := utf8ByteSize_eq s
  rw [hs', byteLength_append, hfour] at hsize
  rw [Shows, if_neg (by omega)]
  refine ⟨String.ofList first, String.ofList middle, String.ofList last, ?_, ?_, ?_, rfl⟩
  · rw [← String.ofList_toList (s := s), hs, hrest, String.ofList_append, String.ofList_append, String.append_assoc]
  · rw [utf8ByteSize_eq, String.toList_ofList, hsix]
  · rw [utf8ByteSize_eq, String.toList_ofList]
    omega

/-- A text is cut after its first part and before its last. -/
theorem cuts_of_parts {first middle last : String} (hs : s = first ++ middle ++ last) :
    splitBytes s.toList first.utf8ByteSize = some (first.toList, middle.toList ++ last.toList) ∧
      splitBytes s.toList (s.utf8ByteSize - last.utf8ByteSize) = some (first.toList ++ middle.toList, last.toList) := by
  have hlist : s.toList = first.toList ++ middle.toList ++ last.toList := by
    rw [hs, String.toList_append, String.toList_append]
  have hsize : s.utf8ByteSize = byteLength (first.toList ++ middle.toList) + last.utf8ByteSize := by
    rw [utf8ByteSize_eq, utf8ByteSize_eq, hlist, byteLength_append]
  constructor
  · have hcut := splitBytes_append first.toList (middle.toList ++ last.toList)
    rwa [← List.append_assoc, ← hlist, ← utf8ByteSize_eq] at hcut
  · have hcut := splitBytes_append (first.toList ++ middle.toList) last.toList
    have hfront : byteLength (first.toList ++ middle.toList) = s.utf8ByteSize - last.utf8ByteSize := by omega
    rwa [← hlist, hfront] at hcut

/-- A commitment is displayed as `d` if and only if `d` is what is shown of it. -/
theorem commitDisplay_eq_ok : commitDisplay s = .ok d ↔ Shows s d := by
  unfold commitDisplay
  split
  · rename_i hlong
    constructor
    · intro h
      split at h
      · rename_i hfirst hlast
        cases h
        exact shows_of_cuts hlong hfirst hlast
      · cases h
    · intro h
      rw [Shows, if_neg (by omega)] at h
      obtain ⟨first, middle, last, hs, hsix, hfour, rfl⟩ := h
      obtain ⟨hfirst, hlast⟩ := cuts_of_parts hs
      rw [hsix] at hfirst
      rw [hfour] at hlast
      simp only [hfirst, hlast, String.ofList_toList]
  · rename_i hshort
    rw [Shows, if_pos (by omega), Except.ok.injEq]
    exact eq_comm

/-- The only failure is a cut inside a character. -/
theorem commitDisplay_error {e : Panic} (h : commitDisplay s = .error e) :
    e = .charBoundary ∧ ∀ d, ¬ Shows s d := by
  constructor
  · unfold commitDisplay at h
    split at h
    · split at h
      · cases h
      · cases h
        rfl
    · cases h
  · intro d hd
    rw [commitDisplay_eq_ok.2 hd] at h
    cases h

end Commitment

/-! ## The rows -/

/-- The row of a signer. -/
def RowOf (r : String × String × Bool) (l : Line) : Prop :=
  ∃ d, Shows r.2.1 d ∧ l = signerRow r.1 (if r.2.2 then "✓ Signed" else "— Pending") d

/-- The number of signers that have signed. -/
def signedOf (signers : List (String × String × Bool)) : ℕ := signers.countP (·.2.2)

section Rows

variable {signers : List (String × String × Bool)} {signedCount : UInt32}

/-- Counting one signer, where there is room. -/
theorem increment_signed (signed : Bool) (h : signedCount.toNat + 1 < 2 ^ 32) : ∃ count : UInt32,
    (if signed then increment signedCount else .ok signedCount) = .ok count ∧
      count.toNat = signedCount.toNat + (if signed then 1 else 0) := by
  cases signed with
  | false => exact ⟨signedCount, rfl, rfl⟩
  | true =>
    obtain ⟨hok, hadd⟩ := increment_ok h
    exact ⟨signedCount + 1, hok, hadd⟩

/-- One turn of the loop: the row is printed and the loop goes on, or the commitment cannot be shown. -/
theorem run_signerRows_cons (name commitmentHex : String) (signed : Bool) (signers : List (String × String × Bool))
    (h : signedCount.toNat + 1 < 2 ^ 32) (out : List Printed) :
    (∃ l count, RowOf (name, commitmentHex, signed) l ∧ count.toNat = signedCount.toNat + (if signed then 1 else 0) ∧
      Op.run (signerRows signedCount ((name, commitmentHex, signed) :: signers)) out =
        Op.run (signerRows count signers) (out ++ [.line l])) ∨
    (∀ d, ¬ Shows commitmentHex d) ∧
      Op.run (signerRows signedCount ((name, commitmentHex, signed) :: signers)) out = (.error .charBoundary, out) := by
  obtain ⟨count, hincrement, hcount⟩ := increment_signed signed h
  rw [signerRows, hincrement]
  cases hd : commitDisplay commitmentHex with
  | ok d => exact .inl ⟨_, count, ⟨d, commitDisplay_eq_ok.1 hd, rfl⟩, hcount, rfl⟩
  | error e =>
    obtain ⟨rfl, hnone⟩ := commitDisplay_error hd
    exact .inr ⟨hnone, rfl⟩

/-- **The loop** prints the rows of all signers and counts those that have signed; or it prints the rows before the
first commitment that cannot be cut, and panics there. -/
theorem run_signerRows_cases (hcount : signedCount.toNat + signers.length < 2 ^ 32) (out : List Printed) :
    (∃ rows count, List.Forall₂ RowOf signers rows ∧ count.toNat = signedCount.toNat + signedOf signers ∧
      Op.run (signerRows signedCount signers) out = (.ok count, out ++ rows.map .line)) ∨
    ∃ before r after rows, signers = before ++ r :: after ∧ List.Forall₂ RowOf before rows ∧
      (∀ d, ¬ Shows r.2.1 d) ∧
      Op.run (signerRows signedCount signers) out = (.error .charBoundary, out ++ rows.map .line) := by
  induction signers generalizing signedCount out with
  | nil => exact .inl ⟨[], signedCount, .nil, rfl, by simp [signerRows]⟩
  | cons r signers ih =>
    obtain ⟨name, commitmentHex, signed⟩ := r
    rw [List.length_cons] at hcount
    have hone : signedCount.toNat + 1 < 2 ^ 32 := by omega
    rcases run_signerRows_cons name commitmentHex signed signers hone out with
      ⟨l, next, hl, hnext, hrun⟩ | ⟨hnone, hrun⟩
    · have hroom : next.toNat + signers.length < 2 ^ 32 := by
        cases signed with
        | false => simp at hnext; omega
        | true => simp at hnext; omega
      rcases ih hroom (out ++ [.line l]) with ⟨rows, count, hrows, hcounted, hrest⟩ |
        ⟨before, r, after, rows, rfl, hrows, hnone, hrest⟩
      · refine .inl ⟨l :: rows, count, .cons hl hrows, ?_, ?_⟩
        · simp only [signedOf, List.countP_cons] at hcounted ⊢
          omega
        · rw [hrun, hrest, List.append_assoc]
          rfl
      · refine .inr ⟨_ :: before, r, after, l :: rows, rfl, .cons hl hrows, hnone, ?_⟩
        rw [hrun, hrest, List.append_assoc]
        rfl
    · exact .inr ⟨[], _, signers, [], rfl, .nil, hnone, by rw [hrun]; simp⟩

end Rows

/-! ## The table -/

/-- The lines above the rows. -/
def signerHeader : List Line :=
  [separator '┌' '┬' '┐' colName colStatus colCommit, signerRow "Signer" "Status" "Commitment",
    separator '├' '┼' '┤' colName colStatus colCommit]

/-- The line below the rows. -/
def signerBottom : Line := separator '└' '┴' '┘' colName colStatus colCommit

/-- What is said under the table about `signed` of `total` signers. -/
def thresholdText (signed total threshold : ℕ) : String :=
  if threshold ≤ signed then s!"Threshold: {signed}/{total} met ✓"
  else s!"Threshold: {signed}/{total} (need {threshold})"

section Table

/-- The verdict under the table is reached on 32 bit numbers, which show what they count. -/
theorem text_thresholdText {signedCount threshold : UInt32} {signed total : ℕ} (hsigned : signedCount.toNat = signed)
    (htotal : total < 2 ^ 32) :
    (if signedCount ≥ threshold then s!"Threshold: {signedCount}/{UInt32.ofNat total} met ✓"
      else s!"Threshold: {signedCount}/{UInt32.ofNat total} (need {threshold})") =
      thresholdText signed total threshold.toNat := by
  have hshow : ∀ n : UInt32, toString n = toString n.toNat := fun _ => rfl
  have hmet : signedCount ≥ threshold ↔ threshold.toNat ≤ signed := by
    rw [ge_iff_le, UInt32.le_iff_toNat_le, hsigned]
  rw [hshow signedCount, hshow threshold, hshow (UInt32.ofNat total), hsigned, UInt32.toNat_ofNat_of_lt' htotal]
  unfold thresholdText
  split
  · rename_i h
    rw [if_pos (hmet.1 h)]
  · rename_i h
    rw [if_neg fun hle => h (hmet.2 hle)]

/-- **Signer tables.** After whatever was printed before, a signer table is whole: its header, one row for each signer
in their order, its bottom line, and the verdict, which counts the signers that have signed and says `met` if and only
if they reach the threshold. Or one commitment cannot be cut: then the table ends before the row of the first such
signer, with a panic. -/
theorem signerTable_says (signers : List (String × String × Bool)) (hcount : signers.length < 2 ^ 32)
    (threshold : UInt32) (out : List Printed) :
    (∃ rows, List.Forall₂ RowOf signers rows ∧
      Op.run (printSignerTable signers threshold) out = (.ok (),
        out ++ (signerHeader ++ rows ++ [signerBottom]).map .line ++
          [.text (thresholdText (signedOf signers) signers.length threshold.toNat)])) ∨
    ∃ before r after rows, signers = before ++ r :: after ∧ List.Forall₂ RowOf before rows ∧ (∀ d, ¬ Shows r.2.1 d) ∧
      Op.run (printSignerTable signers threshold) out =
        (.error .charBoundary, out ++ (signerHeader ++ rows).map .line) := by
  rw [printSignerTable, Op.run_bind_of_ok (run_println _ _), Op.run_bind_of_ok (run_println _ _),
    Op.run_bind_of_ok (run_println _ _)]
  have hroom : (0 : UInt32).toNat + signers.length < 2 ^ 32 := by
    rw [UInt32.toNat_zero]
    omega
  rcases run_signerRows_cases hroom
    (out ++ [.line (separator '┌' '┬' '┐' colName colStatus colCommit)] ++
      [.line (signerRow "Signer" "Status" "Commitment")] ++
      [.line (separator '├' '┼' '┤' colName colStatus colCommit)]) with
    ⟨rows, count, hrows, hcounted, hrun⟩ | ⟨before, r, after, rows, hsigners, hrows, hnone, hrun⟩
  · rw [UInt32.toNat_zero, Nat.zero_add] at hcounted
    refine .inl ⟨rows, hrows, ?_⟩
    rw [Op.run_bind_of_ok hrun, Op.run_bind_of_ok (run_println _ _), run_println, text_thresholdText hcounted hcount]
    simp [signerHeader, signerBottom]
  · refine .inr ⟨before, r, after, rows, hsigners, hrows, hnone, ?_⟩
    rw [Op.run_bind_of_error hrun]
    simp [signerHeader]

end Table

/-- Two signers; the sixth byte of the second commitment is inside a character. -/
def uncuttable : List (String × String × Bool) :=
  [("Signer 1", "0xea7e2af4", true), ("Signer 2", "0x123é4567890123", false)]

/-- Their table ends after the first row. -/
theorem uncuttable_panics : Op.run (printSignerTable uncuttable 1) [] =
    (.error .charBoundary, (signerHeader ++ [signerRow "Signer 1" "✓ Signed" "0xea7e2af4"]).map .line) := by
  have hnone : ∀ d, ¬ Shows "0x123é4567890123" d := (commitDisplay_error rfl).2
  have hwhole : ∀ d, Shows "0xea7e2af4" d → d = "0xea7e2af4" := by
    intro d hd
    have hok : commitDisplay "0xea7e2af4" = .ok d := commitDisplay_eq_ok.2 hd
    cases hok
    rfl
  rcases signerTable_says uncuttable (by decide) 1 [] with
    ⟨rows, hrows, -⟩ | ⟨before, r, after, rows, hsigners, hrows, hr, hrun⟩
  · cases hrows with
    | cons _ hrest =>
      cases hrest with
      | cons hrow _ =>
        obtain ⟨d, hd, -⟩ := hrow
        exact absurd hd (hnone d)
  · rcases before with _ | ⟨x, _ | ⟨y, before⟩⟩
    · cases hsigners
      exact absurd (commitDisplay_eq_ok.1 rfl) (hr "0xea7e2af4")
    · cases hsigners
      cases hrows with
      | cons hrow hnil =>
        cases hnil
        obtain ⟨d, hd, rfl⟩ := hrow
        cases hwhole d hd
        exact hrun
    · have hlength := congrArg List.length hsigners
      simp [uncuttable] at hlength

end BraleMiden.Display
