import Mathlib.Algebra.Group.Nat.Defs
import Mathlib.Data.List.Basic

/-!
# Fixed-length byte strings

Slices of a vector and writes of one vector into another, as byte layouts use them, and hex text.

* `write_parts`: a buffer filled part after part is the concatenation of the parts, whatever was in it;
* `slice_parts`, `getElem_parts`: slicing the concatenation gives the parts back;
* `slice_append_slice`: the two parts of a vector make the vector; `slice_append_left`, `slice_append_right` take them;
* `hexDecode_eq_some`: decoding accepts exactly the hex text of a byte string, and gives the byte string back;
* `eq_of_digits`: numbers below a power of the base are given by their digits.
-/

namespace Bytes

variable {α : Type} {n m k : ℕ}

/-! ## Slices and writes -/

/-- The `m` entries from `start` on. -/
def slice (v : Vector α n) (start m : ℕ) (h : start + m ≤ n) : Vector α m := Vector.ofFn fun i => v[start + i]

/-- `out` with `src` written over the entries from `start` on. -/
def copyFromSlice (out : Vector α n) (start : ℕ) (src : Vector α m) : Vector α n :=
  Vector.ofFn fun i => if h : start ≤ i ∧ i < start + m then src[i - start] else out[i]

section Layout

variable {v : Vector α n} {start : ℕ}

theorem getElem_slice (h : start + m ≤ n) {i : ℕ} (hi : i < m) : (slice v start m h)[i] = v[start + i] := by
  simp [slice]

/-- Inside the written range a write shows the source. -/
theorem getElem_copyFromSlice_of_mem {src : Vector α m} {i : ℕ} (hi : i < n) (hs : start ≤ i) (he : i < start + m) :
    (copyFromSlice v start src)[i] = src[i - start] := by
  simp [copyFromSlice, hs, he]

/-- Before the written range a write shows the buffer. -/
theorem getElem_copyFromSlice_of_lt {src : Vector α m} {i : ℕ} (hi : i < n) (hs : i < start) :
    (copyFromSlice v start src)[i] = v[i] := by
  simp [copyFromSlice, Nat.not_le.2 hs]

/-- A write over the whole buffer leaves the source. -/
theorem copyFromSlice_all (v src : Vector α n) : copyFromSlice v 0 src = src := by
  apply Vector.ext
  intro i hi
  rw [getElem_copyFromSlice_of_mem hi (Nat.zero_le i) (by omega)]
  rfl

/-- The first part of a concatenation. -/
theorem slice_append_left (x : Vector α m) (y : Vector α k) : slice (x ++ y) 0 m (by omega) = x := by
  apply Vector.ext
  intro i hi
  rw [getElem_slice, Vector.getElem_append_left (by omega)]
  simp only [Nat.zero_add]

/-- The second part of a concatenation. -/
theorem slice_append_right (x : Vector α m) (y : Vector α k) : slice (x ++ y) m k (by omega) = y := by
  apply Vector.ext
  intro i hi
  rw [getElem_slice, Vector.getElem_append_right (by omega) (by omega)]
  simp only [Nat.add_sub_cancel_left]

/-- A vector is its first part followed by its second. -/
theorem slice_append_slice (v : Vector α (m + k)) :
    slice v 0 m (by omega) ++ slice v m k (by omega) = v := by
  apply Vector.ext
  intro i hi
  rw [Vector.getElem_append]
  split
  · rw [getElem_slice]
    simp only [Nat.zero_add]
  · rename_i hm
    rw [getElem_slice]
    simp only [Nat.add_sub_cancel' (Nat.le_of_not_lt hm)]

end Layout

/-! ## Two parts and a last entry -/

section Parts

variable (x : Vector α m) (y : Vector α k) (a : α)

/-- A buffer filled with `x`, then `y`, then the last entry `a`: nothing of the old content is left. -/
theorem write_parts (out : Vector α (m + k + 1)) :
    (copyFromSlice (copyFromSlice out 0 x) m y).set (m + k) a = (x ++ y).push a := by
  apply Vector.ext
  intro i hi
  rw [Vector.getElem_set, Vector.getElem_push]
  rcases Nat.lt_trichotomy i (m + k) with hlt | rfl | hgt
  · rw [if_neg (by omega), dif_pos hlt, Vector.getElem_append]
    split
    · rename_i hm
      rw [getElem_copyFromSlice_of_lt hi hm, getElem_copyFromSlice_of_mem hi (Nat.zero_le i) (by omega)]
      rfl
    · rename_i hm
      exact getElem_copyFromSlice_of_mem hi (by omega) (by omega)
  · rw [if_pos rfl, dif_neg (Nat.lt_irrefl _)]
  · omega

/-- Without its last entry, the layout is the two parts. -/
theorem slice_parts : slice ((x ++ y).push a) 0 (m + k) (by omega) = x ++ y := by
  apply Vector.ext
  intro i hi
  rw [getElem_slice]
  simp only [Nat.zero_add]
  rw [Vector.getElem_push, dif_pos hi]

theorem getElem_parts : ((x ++ y).push a)[m + k] = a := by
  rw [Vector.getElem_push, dif_neg (Nat.lt_irrefl _)]

/-- A vector is its slice without the last entry, with the last entry pushed. -/
theorem push_slice (v : Vector α (n + 1)) : (slice v 0 n (by omega)).push v[n] = v := by
  apply Vector.ext
  intro i hi
  rw [Vector.getElem_push]
  split
  · rw [getElem_slice]
    simp only [Nat.zero_add]
  · rename_i hn
    simp only [Nat.le_antisymm (Nat.le_of_not_lt hn) (Nat.le_of_lt_succ hi)]

end Parts

/-! ## Hex -/

/-- The two hex digits of a byte, in lower case. -/
def hexByte (b : UInt8) : List Char := [Nat.digitChar (b.toNat / 16), Nat.digitChar (b.toNat % 16)]

/-- The hex text of a byte string. -/
def hexEncode (v : Vector UInt8 n) : String := String.ofList (v.toList.flatMap hexByte)

/-- The value of a hex digit in lower case. -/
def hexValue (c : Char) : Option ℕ := (List.range 16).find? fun d => Nat.digitChar d == c

/-- The bytes that pairs of hex digits give. -/
def hexBytes : List Char → Option (List UInt8)
  | [] => some []
  | [_] => none
  | c :: d :: cs => do
    let high ← hexValue c
    let low ← hexValue d
    let rest ← hexBytes cs
    return UInt8.ofNat (16 * high + low) :: rest

/-- The byte string of length `n` that a hex text gives. -/
def hexDecode (n : ℕ) (s : String) : Option (Vector UInt8 n) :=
  (hexBytes s.toList).bind fun bs => if h : bs.length = n then some ⟨bs.toArray, by simpa using h⟩ else none

section Hex

variable {bs : List UInt8} {cs : List Char} {c : Char} {d : ℕ} {v w : Vector UInt8 n} {s : String}

theorem hexValue_digitChar (h : d < 16) : hexValue (Nat.digitChar d) = some d := by
  have hall : ∀ d : Fin 16, hexValue (Nat.digitChar d.val) = some d.val := by decide
  exact hall ⟨d, h⟩

/-- Only the digits themselves have a value. -/
theorem hexValue_some (h : hexValue c = some d) : d < 16 ∧ Nat.digitChar d = c := by
  have hc := List.find?_some h
  have hd := List.mem_of_find?_eq_some h
  exact ⟨List.mem_range.1 hd, by simpa using hc⟩

theorem hexBytes_flatMap (bs : List UInt8) : hexBytes (bs.flatMap hexByte) = some bs := by
  induction bs with
  | nil => rfl
  | cons b bs ih =>
    have hb := b.toNat_lt
    have hbyte : 16 * (b.toNat / 16) + b.toNat % 16 = b.toNat := by omega
    rw [List.flatMap_cons, hexByte]
    show hexBytes (Nat.digitChar (b.toNat / 16) :: Nat.digitChar (b.toNat % 16) :: bs.flatMap hexByte) = _
    rw [hexBytes, hexValue_digitChar (by omega), hexValue_digitChar (by omega), ih]
    simp only [Option.bind_eq_bind, Option.bind_some, hbyte, UInt8.ofNat_toNat, Option.pure_def]

/-- Nothing but the digits of a byte string is taken for it. -/
theorem hexBytes_some (h : hexBytes cs = some bs) : cs = bs.flatMap hexByte := by
  induction cs using hexBytes.induct generalizing bs with
  | case1 =>
    cases h
    rfl
  | case2 c => cases h
  | case3 c d cs ih =>
    simp only [hexBytes, Option.bind_eq_bind, Option.bind_eq_some_iff, Option.pure_def, Option.some.injEq] at h
    obtain ⟨high, hhigh, low, hlow, rest, hrest, rfl⟩ := h
    obtain ⟨hlt, rfl⟩ := hexValue_some hhigh
    obtain ⟨hlt', rfl⟩ := hexValue_some hlow
    have hnat : (UInt8.ofNat (16 * high + low)).toNat = 16 * high + low := by
      rw [UInt8.toNat_ofNat']
      omega
    have hquot : (16 * high + low) / 16 = high := by omega
    have hrem : (16 * high + low) % 16 = low := by omega
    rw [List.flatMap_cons, ← ih hrest, hexByte, hnat, hquot, hrem]
    rfl

/-- **Round trip.** A text decodes to a byte string if and only if it is its hex text. -/
theorem hexDecode_eq_some : hexDecode n s = some v ↔ s = hexEncode v := by
  unfold hexDecode
  constructor
  · intro h
    obtain ⟨bs, hbs, hv⟩ := Option.bind_eq_some_iff.1 h
    split at hv
    · cases hv
      rw [hexEncode, Vector.toList_mk, ← hexBytes_some hbs, String.ofList_toList]
    · cases hv
  · rintro rfl
    rw [hexEncode, String.toList_ofList, hexBytes_flatMap, Option.bind_some, dif_pos v.length_toList]
    exact congrArg some (Vector.toArray_inj.1 Array.toArray_toList)

/-- Every byte has two digits. -/
theorem length_hexEncode (v : Vector UInt8 n) : (hexEncode v).length = 2 * n := by
  rw [hexEncode, String.length_ofList, List.length_flatMap]
  simp [hexByte, Nat.mul_comm]

/-- The digits are ASCII. -/
theorem hexEncode_ascii (v : Vector UInt8 n) : ∀ c ∈ (hexEncode v).toList, c.utf8Size = 1 := by
  have hall : ∀ d : Fin 16, (Nat.digitChar d.val).utf8Size = 1 := by decide
  intro c hc
  rw [hexEncode, String.toList_ofList] at hc
  obtain ⟨b, -, hcb⟩ := List.mem_flatMap.1 hc
  have hb := b.toNat_lt
  simp only [hexByte, List.mem_cons, List.not_mem_nil, or_false] at hcb
  rcases hcb with rfl | rfl
  · exact hall ⟨b.toNat / 16, by omega⟩
  · exact hall ⟨b.toNat % 16, by omega⟩

end Hex

/-! ## Digits -/

/-- Numbers below `b ^ k` with the same `k` digits are equal. -/
theorem eq_of_digits {b k x y : ℕ} (hx : x < b ^ k) (hy : y < b ^ k)
    (h : ∀ j < k, x / b ^ j % b = y / b ^ j % b) : x = y := by
  induction k generalizing x y with
  | zero =>
    rw [Nat.pow_zero] at hx hy
    omega
  | succ k ih =>
    have hlow : x % b = y % b := by simpa using h 0 (Nat.succ_pos k)
    have hhigh : x / b = y / b := by
      refine ih ?_ ?_ ?_
      · exact Nat.div_lt_of_lt_mul (by rwa [Nat.pow_succ, Nat.mul_comm] at hx)
      · exact Nat.div_lt_of_lt_mul (by rwa [Nat.pow_succ, Nat.mul_comm] at hy)
      · intro j hj
        have hdigit := h (j + 1) (by omega)
        rwa [Nat.pow_succ, Nat.mul_comm, ← Nat.div_div_eq_div_mul, ← Nat.div_div_eq_div_mul] at hdigit
    rw [← Nat.div_add_mod x b, ← Nat.div_add_mod y b, hlow, hhigh]

end Bytes
