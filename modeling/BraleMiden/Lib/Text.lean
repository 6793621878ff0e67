import Mathlib.Algebra.BigOperators.Group.List.Basic
import Mathlib.Algebra.Ring.Nat
import Mathlib.Data.List.Basic

/-!
# Text in columns

Strings cut at byte offsets of their UTF-8 encoding, strings padded to a number of characters, and framed lines: cells
between edge characters.

* `splitBytes_eq_some`: cutting after `n` bytes gives the two parts whose first has `n` bytes, if there are such parts;
* `length_pad`: a padded string is as long as the width, or as before if that is more;
* `Line.getElem?_offsets`: at its offsets a line has its edges;
* `aligned_of_widths`: lines whose cells have the same widths are aligned.
-/

namespace Text

/-! ## Bytes -/

/-- The number of bytes of a text in UTF-8. -/
def byteLength (cs : List Char) : ℕ := (cs.map Char.utf8Size).sum

/-- The text cut after `n` bytes; there is no cut inside a character. -/
def splitBytes : List Char → ℕ → Option (List Char × List Char)
  | cs, 0 => some ([], cs)
  | [], _ + 1 => none
  | c :: cs, n + 1 =>
    if c.utf8Size ≤ n + 1 then (splitBytes cs (n + 1 - c.utf8Size)).map fun p => (c :: p.1, p.2) else none

variable {cs xs ys : List Char} {n : ℕ}

@[simp] theorem byteLength_nil : byteLength [] = 0 := rfl

@[simp] theorem byteLength_cons (c : Char) (cs : List Char) : byteLength (c :: cs) = c.utf8Size + byteLength cs := by
  simp [byteLength]

@[simp] theorem byteLength_append (xs ys : List Char) : byteLength (xs ++ ys) = byteLength xs + byteLength ys := by
  simp [byteLength]

/-- Every character takes a byte. -/
theorem length_le_byteLength (cs : List Char) : cs.length ≤ byteLength cs := by
  induction cs with
  | nil => exact Nat.le_refl 0
  | cons c cs ih =>
    have hpos := c.utf8Size_pos
    simp only [List.length_cons, byteLength_cons]
    omega

theorem utf8ByteSize_eq (s : String) : s.utf8ByteSize = byteLength s.toList := by
  rw [← String.ofList_toList (s := s), String.toList_ofList]
  induction s.toList with
  | nil => rfl
  | cons c cs ih =>
    rw [byteLength_cons, ← ih, String.ofList_cons, String.utf8ByteSize_append, String.utf8ByteSize_singleton]

theorem length_le_utf8ByteSize (s : String) : s.length ≤ s.utf8ByteSize := by
  rw [utf8ByteSize_eq, ← String.length_toList]
  exact length_le_byteLength _

/-- An ASCII text has as many bytes as characters. -/
theorem byteLength_ascii (h : ∀ c ∈ cs, c.utf8Size = 1) : byteLength cs = cs.length := by
  induction cs with
  | nil => rfl
  | cons c cs ih =>
    rw [List.forall_mem_cons] at h
    rw [byteLength_cons, h.1, ih h.2, List.length_cons, Nat.add_comm]

/-- A decimal numeral of at most 64 bits has at most 20 bytes. -/
theorem utf8ByteSize_toString_le (n : UInt64) : (toString n).utf8ByteSize ≤ 20 := by
  have hdigits : ∀ c ∈ (toString n).toList, c.utf8Size = 1 := by
    intro c hc
    have hmem : c ∈ n.toNat.repr.toList := hc
    rw [Nat.toList_repr] at hmem
    have hdigit := Nat.isDigit_of_mem_toDigits (by decide) (by decide) hmem
    simp only [Char.isDigit, Bool.and_eq_true, decide_eq_true_eq] at hdigit
    have hle : ('9' : Char).val ≤ 127 := by decide
    exact Char.utf8Size_eq_one_iff.2 (UInt32.le_trans hdigit.2 hle)
  have hlength : n.toNat.repr.length ≤ 20 := by
    rw [Nat.length_repr_le_iff (by decide)]
    have hlt := n.toNat_lt
    omega
  rw [utf8ByteSize_eq, byteLength_ascii hdigits, String.length_toList]
  exact hlength

@[simp] theorem splitBytes_zero (cs : List Char) : splitBytes cs 0 = some ([], cs) := by
  cases cs <;> rfl

/-- After the bytes of its first part a text is cut into its two parts. -/
theorem splitBytes_append (xs ys : List Char) : splitBytes (xs ++ ys) (byteLength xs) = some (xs, ys) := by
  induction xs with
  | nil => exact splitBytes_zero ys
  | cons c cs ih =>
    have hpos := c.utf8Size_pos
    rw [byteLength_cons, List.cons_append]
    obtain ⟨n, hn⟩ : ∃ n, c.utf8Size + byteLength cs = n + 1 := ⟨c.utf8Size + byteLength cs - 1, by omega⟩
    have hrest : n + 1 - c.utf8Size = byteLength cs := by omega
    rw [hn, splitBytes, if_pos (by omega), hrest, ih]
    rfl

/-- A cut gives two parts, the first of `n` bytes. -/
theorem splitBytes_some (h : splitBytes cs n = some (xs, ys)) : cs = xs ++ ys ∧ byteLength xs = n := by
  induction cs, n using splitBytes.induct generalizing xs with
  | case1 cs =>
    rw [splitBytes_zero] at h
    cases h
    exact ⟨rfl, rfl⟩
  | case2 n => cases h
  | case3 c cs n hle ih =>
    rw [splitBytes, if_pos hle] at h
    obtain ⟨⟨xs', ys'⟩, hsplit, heq⟩ := Option.map_eq_some_iff.1 h
    cases heq
    obtain ⟨rfl, hbytes⟩ := ih hsplit
    refine ⟨rfl, ?_⟩
    rw [byteLength_cons, hbytes]
    omega
  | case4 c cs n hgt =>
    rw [splitBytes, if_neg hgt] at h
    cases h

/-! ## Padding -/

/-- The text, filled up on the right to `width` characters. -/
def pad (fill : Char) (width : ℕ) (s : String) : String := s ++ String.ofList (List.replicate (width - s.length) fill)

theorem length_pad (fill : Char) (width : ℕ) (s : String) : (pad fill width s).length = max width s.length := by
  rw [pad, String.length_append, String.length_ofList, List.length_replicate]
  omega

theorem length_pad_of_le {fill : Char} {width : ℕ} {s : String} (h : s.length ≤ width) :
    (pad fill width s).length = width := by
  rw [length_pad, Nat.max_eq_left h]

/-! ## Framed lines -/

/-- An edge, and then cells that each end with an edge. -/
structure Line where
  left : Char
  cells : List (String × Char)
deriving DecidableEq, Repr

/-- The characters of cells with their edges. -/
def cellChars (cells : List (String × Char)) : List Char := cells.flatMap fun p => p.1.toList ++ [p.2]

/-- The offsets of the edges around cells of these widths, from the first edge at `o`. -/
def edgesFrom (o : ℕ) : List ℕ → List ℕ
  | [] => [o]
  | w :: ws => o :: edgesFrom (o + w + 1) ws

namespace Line

/-- The line as it is printed. -/
def text (l : Line) : String := String.ofList (l.left :: cellChars l.cells)

/-- The widths of the cells. -/
def widths (l : Line) : List ℕ := l.cells.map (·.1.length)

/-- The edge characters. -/
def edges (l : Line) : List Char := l.left :: l.cells.map (·.2)

/-- Where the edges stand in the text. -/
def offsets (l : Line) : List ℕ := edgesFrom 0 l.widths

theorem length_text (l : Line) : l.text.length = (l.widths.map (· + 1)).sum + 1 := by
  rw [text, String.length_ofList, List.length_cons, cellChars, List.length_flatMap, widths, List.map_map]
  simp [Function.comp_def, String.length_toList]

end Line

/-- Behind any text, the edges stand where `edgesFrom` says. -/
theorem getElem?_edgesFrom (pre : List Char) (e : Char) (cells : List (String × Char)) :
    (edgesFrom pre.length (cells.map (·.1.length))).map (fun o => (pre ++ e :: cellChars cells)[o]?) =
      (e :: cells.map (·.2)).map some := by
  induction cells generalizing pre e with
  | nil => simp [edgesFrom]
  | cons p cells ih =>
    obtain ⟨cell, e'⟩ := p
    have hlen : pre.length + cell.length + 1 = (pre ++ e :: cell.toList).length := by
      simp [String.length_toList, Nat.add_assoc]
    have hchars : pre ++ e :: cellChars ((cell, e') :: cells) = (pre ++ e :: cell.toList) ++ e' :: cellChars cells := by
      simp [cellChars]
    simp only [List.map_cons, edgesFrom]
    rw [hlen, hchars, ih]
    simp

/-- At its offsets a line has its edges. -/
theorem Line.getElem?_offsets (l : Line) : l.offsets.map (fun o => l.text.toList[o]?) = l.edges.map some := by
  simpa [offsets, widths, edges, text] using getElem?_edgesFrom [] l.left l.cells

/-- All lines have the same number of characters, and their edges at the same offsets. -/
def Aligned (lines : List Line) : Prop :=
  ∀ l ∈ lines, ∀ l' ∈ lines, l.text.length = l'.text.length ∧ l.offsets = l'.offsets

/-- Lines with cells of the same widths are aligned. -/
theorem aligned_of_widths {lines : List Line} {ws : List ℕ} (h : ∀ l ∈ lines, l.widths = ws) : Aligned lines := by
  intro l hl l' hl'
  constructor
  · rw [l.length_text, l'.length_text, h l hl, h l' hl']
  · rw [Line.offsets, Line.offsets, h l hl, h l' hl']

end Text
