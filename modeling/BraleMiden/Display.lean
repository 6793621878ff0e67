import BraleMiden.Lib.Op
import BraleMiden.Lib.Text

/-!
# Tables on the terminal

`print_balance_table` and `print_signer_table` of `display.rs`, as operations on what has been printed.

* `signerRows_keeps`: every line of a signer table has the cells of its first line, also when a slice or an addition
  panics in a row;
* `widths_hdrRow`, `widths_balanceRow`: the data rows of a balance table have the cells of its separators, its header
  does not;
* `run_printBalanceTable`: what is printed, line by line;
* `laidOut_iff`: so a table is laid out if and only if it is a signer table.
-/

namespace BraleMiden.Display

open Effects Text

/-- What is printed: a line of a table, or other text. -/
inductive Printed
  | line (l : Line)
  | text (s : String)
deriving DecidableEq, Repr

/-- A panic of a format, of a slice and of an addition. -/
inductive Panic
  | formattingArgument
  | charBoundary
  | addOverflow
deriving DecidableEq, Repr

/-- `println!` -/
def println (p : Printed) : Op (List Printed) Panic Unit := Op.mk fun out => (.ok (), out ++ [p])

/-- A width argument of a format; it must fit 16 bits. -/
def widthArgument (width : ℕ) : Except Panic Unit := if width < 2 ^ 16 then .ok () else .error .formattingArgument

/-- `"┌{:─<w1$}┬{:─<w2$}┬{:─<w3$}┐"` -/
def separator (left inner right : Char) (w1 w2 w3 : ℕ) : Line where
  left := left
  cells := [(pad '─' w1 "", inner), (pad '─' w2 "", inner), (pad '─' w3 "", right)]

/-- `"│ {}│ {}│ {}│"` -/
def row (a b c : String) : Line where
  left := '│'
  cells := [(" " ++ a, '│'), (" " ++ b, '│'), (" " ++ c, '│')]

/-! ## Balances -/

def colAcct : ℕ := 10

def supplyStr (issuerSupply : UInt64) : String := s!"S: {issuerSupply}"

def colToken (tokenSymbol : String) (issuerSupply walletABalance walletBBalance : UInt64) : ℕ :=
  max (max (max (max tokenSymbol.utf8ByteSize (supplyStr issuerSupply).utf8ByteSize)
    (toString walletABalance).utf8ByteSize) (toString walletBBalance).utf8ByteSize) 7 + 2

def colRole : ℕ := 8

/-- The header, whose last two cells are padded to the full width of the column. -/
def hdrRow (colToken : ℕ) (tokenSymbol : String) : Line :=
  let hdrToken := pad ' ' colToken tokenSymbol
  let hdrRole := pad ' ' colRole "Role"
  row (pad ' ' (colAcct - 1) "Account") hdrToken hdrRole

/-- A data row. -/
def balanceRow (colToken : ℕ) (account token role : String) : Line :=
  row (pad ' ' (colAcct - 1) account) (pad ' ' (colToken - 1) token) (pad ' ' (colRole - 1) role)

/-- `print_balance_table` -/
def printBalanceTable (tokenSymbol : String) (issuerSupply walletABalance walletBBalance : UInt64) :
    Op (List Printed) Panic Unit := do
  let colToken := colToken tokenSymbol issuerSupply walletABalance walletBBalance
  -- The first width argument. Those that follow are at most this one, or constants.
  Op.ofExcept (widthArgument colToken)
  println (.line (separator '┌' '┬' '┐' colAcct colToken colRole))
  println (.line (hdrRow colToken tokenSymbol))
  println (.line (separator '├' '┼' '┤' colAcct colToken colRole))
  println (.line (balanceRow colToken "Issuer" (supplyStr issuerSupply) "Faucet"))
  println (.line (balanceRow colToken "Wallet A" (toString walletABalance) "Holder"))
  println (.line (balanceRow colToken "Wallet B" (toString walletBBalance) "Holder"))
  println (.line (separator '└' '┴' '┘' colAcct colToken colRole))

/-! ## Signers -/

def colName : ℕ := 10

def colStatus : ℕ := 12

def colCommit : ℕ := 14

def signerRow (name status commitment : String) : Line :=
  row (pad ' ' (colName - 1) name) (pad ' ' (colStatus - 1) status) (pad ' ' (colCommit - 1) commitment)

/-- The commitment, or its first six and last four bytes. -/
def commitDisplay (commitmentHex : String) : Except Panic String :=
  if commitmentHex.utf8ByteSize > 12 then
    match splitBytes commitmentHex.toList 6, splitBytes commitmentHex.toList (commitmentHex.utf8ByteSize - 4) with
    | some (first, _), some (_, last) => .ok (String.ofList first ++ "…" ++ String.ofList last)
    | _, _ => .error .charBoundary
  else .ok commitmentHex

/-- `signed_count += 1` -/
def increment (signedCount : UInt32) : Except Panic UInt32 :=
  if signedCount.toNat + 1 < 2 ^ 32 then .ok (signedCount + 1) else .error .addOverflow

/-- The loop over the signers, with `signed_count`. -/
def signerRows (signedCount : UInt32) : List (String × String × Bool) → Op (List Printed) Panic UInt32
  | [] => pure signedCount
  | (name, commitmentHex, signed) :: signers => do
    let signedCount ← Op.ofExcept (if signed then increment signedCount else .ok signedCount)
    let status := if signed then "✓ Signed" else "— Pending"
    let commitDisplay ← Op.ofExcept (commitDisplay commitmentHex)
    println (.line (signerRow name status commitDisplay))
    signerRows signedCount signers

/-- `print_signer_table` -/
def printSignerTable (signers : List (String × String × Bool)) (threshold : UInt32) :
    Op (List Printed) Panic Unit := do
  println (.line (separator '┌' '┬' '┐' colName colStatus colCommit))
  println (.line (signerRow "Signer" "Status" "Commitment"))
  println (.line (separator '├' '┼' '┤' colName colStatus colCommit))
  let signedCount ← signerRows 0 signers
  println (.line (separator '└' '┴' '┘' colName colStatus colCommit))
  let total := UInt32.ofNat signers.length
  println (.text (if signedCount ≥ threshold then s!"Threshold: {signedCount}/{total} met ✓"
    else s!"Threshold: {signedCount}/{total} (need {threshold})"))

/-! ## Widths -/

section Widths

variable {name status a b c d s : String} {colToken : ℕ}

@[simp] theorem widths_separator (left inner right : Char) (w1 w2 w3 : ℕ) :
    (separator left inner right w1 w2 w3).widths = [w1, w2, w3] := by
  simp [separator, Line.widths, length_pad]

@[simp] theorem widths_row (a b c : String) : (row a b c).widths = [1 + a.length, 1 + b.length, 1 + c.length] := by
  have hblank : " ".length = 1 := rfl
  simp [row, Line.widths, String.length_append, hblank]

/-- The header is two characters wider than the columns. -/
theorem widths_hdrRow (h : s.length ≤ colToken) : (hdrRow colToken s).widths = [10, colToken + 1, 9] := by
  have haccount : (pad ' ' (colAcct - 1) "Account").length = 9 := rfl
  have hrole : (pad ' ' colRole "Role").length = 8 := rfl
  rw [hdrRow, widths_row, haccount, length_pad_of_le h, hrole, Nat.add_comm 1 colToken]

/-- The data rows fill the columns. -/
theorem widths_balanceRow (ha : a.length ≤ 9) (hb : b.length < colToken) (hc : c.length ≤ 7) :
    (balanceRow colToken a b c).widths = [10, colToken, 8] := by
  have htoken : 1 + (colToken - 1) = colToken := by omega
  simp [balanceRow, colAcct, colRole, length_pad_of_le ha, length_pad_of_le (Nat.le_sub_one_of_lt hb),
    length_pad_of_le hc, htoken]

theorem widths_signerRow (ha : a.length ≤ 9) (hb : b.length ≤ 11) (hc : c.length ≤ 13) :
    (signerRow a b c).widths = [10, 12, 14] := by
  simp [signerRow, colName, colStatus, colCommit, length_pad_of_le ha, length_pad_of_le hb, length_pad_of_le hc]

/-- The display of a commitment fits its column. -/
theorem length_commitDisplay (h : commitDisplay s = .ok d) : d.length ≤ 13 := by
  have hlen := length_le_utf8ByteSize s
  unfold commitDisplay at h
  split at h
  · split at h
    · rename_i first rest prefix' last hfirst hlast
      cases h
      obtain ⟨-, hfirst⟩ := splitBytes_some hfirst
      obtain ⟨hs, hlast⟩ := splitBytes_some hlast
      have hbytes := utf8ByteSize_eq s
      rw [hs, byteLength_append] at hbytes
      have hfirst' := length_le_byteLength first
      have hlast' := length_le_byteLength last
      simp only [String.length_append, String.length_ofList]
      have hone : "…".length = 1 := rfl
      omega
    · cases h
  · cases h
    omega

theorem length_status (signed : Bool) : (if signed then "✓ Signed" else "— Pending").length ≤ 11 := by
  cases signed with
  | false => exact Nat.le_of_ble_eq_true rfl
  | true => exact Nat.le_of_ble_eq_true rfl

end Widths

/-! ## Lines of a table -/

/-- The table lines that have been printed. -/
def tableLines (out : List Printed) : List Line :=
  out.filterMap fun
    | .line l => some l
    | .text _ => none

/-- A table has been started, and its cells have these widths. -/
def Framed (ws : List ℕ) (out : List Printed) : Prop := tableLines out ≠ [] ∧ ∀ l ∈ tableLines out, l.widths = ws

section Lines

variable {ws : List ℕ} {l : Line} {out : List Printed} {signers : List (String × String × Bool)}

@[simp] theorem tableLines_append (out out' : List Printed) :
    tableLines (out ++ out') = tableLines out ++ tableLines out' := List.filterMap_append

@[simp] theorem tableLines_line (l : Line) : tableLines [.line l] = [l] := rfl

@[simp] theorem tableLines_text (s : String) : tableLines [.text s] = [] := rfl

theorem tableLines_map (lines : List Line) : tableLines (lines.map .line) = lines := by
  induction lines with
  | nil => rfl
  | cons l lines ih => exact congrArg (l :: ·) ih

theorem run_println (p : Printed) (out : List Printed) : Op.run (println p) out = (.ok (), out ++ [p]) := rfl

theorem println_line_keeps (h : l.widths = ws) : Keeps (Passes (Framed ws)) (println (.line l)) := by
  intro out hframed
  show Framed ws (out ++ [.line l])
  obtain ⟨hne, hws⟩ := hframed
  refine ⟨by simp, ?_⟩
  simp only [tableLines_append, tableLines_line, List.mem_append, List.mem_singleton]
  rintro l' (hl' | rfl)
  · exact hws l' hl'
  · exact h

theorem println_text_keeps (s : String) : Keeps (Passes (Framed ws)) (println (.text s)) := by
  intro out hframed
  show Framed ws (out ++ [.text s])
  simpa [Framed] using hframed

/-- **The rows of the signers** have the widths of the table, however the loop ends. -/
theorem signerRows_keeps (h : ∀ r ∈ signers, r.1.length ≤ 9) (signedCount : UInt32) :
    Keeps (Passes (Framed [10, 12, 14])) (signerRows signedCount signers) := by
  induction signers generalizing signedCount with
  | nil => exact .pure _
  | cons r signers ih =>
    obtain ⟨name, commitmentHex, signed⟩ := r
    obtain ⟨hname, hrest⟩ := List.forall_mem_cons.1 h
    refine .bind (.ofExcept _) fun count => .bind_of_run (.ofExcept _) fun d s s' hrun => ?_
    have hd : commitDisplay commitmentHex = .ok d := congrArg Prod.fst hrun
    refine .bind (println_line_keeps ?_) fun _ => ih hrest count
    exact widths_signerRow hname (length_status signed) (length_commitDisplay hd)

/-- An ASCII commitment can be displayed. -/
theorem commitDisplay_ascii {s : String} (h : ∀ c ∈ s.toList, c.utf8Size = 1) : ∃ d, commitDisplay s = .ok d := by
  have hlen := utf8ByteSize_eq s
  rw [byteLength_ascii h] at hlen
  -- An ASCII text can be cut anywhere.
  have hcut : ∀ n ≤ s.utf8ByteSize, splitBytes s.toList n = some (s.toList.take n, s.toList.drop n) := by
    intro n hn
    have hbytes : byteLength (s.toList.take n) = n := by
      rw [byteLength_ascii fun c hc => h c (List.mem_of_mem_take hc), List.length_take, ← hlen, Nat.min_eq_left hn]
    have hsplit := splitBytes_append (s.toList.take n) (s.toList.drop n)
    rwa [List.take_append_drop, hbytes] at hsplit
  unfold commitDisplay
  split
  · rw [hcut 6 (by omega), hcut (s.utf8ByteSize - 4) (by omega)]
    exact ⟨_, rfl⟩
  · exact ⟨s, rfl⟩

/-- An addition that does not overflow. -/
theorem increment_ok {signedCount : UInt32} (h : signedCount.toNat + 1 < 2 ^ 32) :
    increment signedCount = .ok (signedCount + 1) ∧ (signedCount + 1).toNat = signedCount.toNat + 1 := by
  refine ⟨if_pos h, ?_⟩
  rw [UInt32.toNat_add]
  exact Nat.mod_eq_of_lt h

/-- A signer table starts with its top line, and goes on with lines of the same widths. -/
theorem printSignerTable_framed (h : ∀ r ∈ signers, r.1.length ≤ 9) (threshold : UInt32) :
    Framed [10, 12, 14] (Op.run (printSignerTable signers threshold) []).2 := by
  have htop : Framed [10, 12, 14] [.line (separator '┌' '┬' '┐' colName colStatus colCommit)] :=
    ⟨List.cons_ne_nil _ _, by simp [colName, colStatus, colCommit]⟩
  have hheader : (signerRow "Signer" "Status" "Commitment").widths = [10, 12, 14] := rfl
  rw [printSignerTable, Op.run_bind_of_ok (run_println _ _)]
  refine Keeps.bind (println_line_keeps hheader) (fun _ => ?_) _ htop
  refine .bind (println_line_keeps (widths_separator ..)) fun _ => .bind (signerRows_keeps h 0) fun _ => ?_
  exact .bind (println_line_keeps (widths_separator ..)) fun _ => println_text_keeps _

end Lines

/-! ## Layout -/

section Layout

variable {tokenSymbol : String} {issuerSupply walletABalance walletBBalance : UInt64}

/-- The token column has room for a blank after each of its texts. -/
theorem length_lt_colToken (tokenSymbol : String) (issuerSupply walletABalance walletBBalance : UInt64) :
    ∀ s ∈ [tokenSymbol, supplyStr issuerSupply, toString walletABalance, toString walletBBalance],
      s.length < colToken tokenSymbol issuerSupply walletABalance walletBBalance := by
  simp only [List.forall_mem_cons, List.not_mem_nil, false_implies, implies_true, and_true, colToken]
  have hsymbol := length_le_utf8ByteSize tokenSymbol
  have hsupply := length_le_utf8ByteSize (supplyStr issuerSupply)
  have ha := length_le_utf8ByteSize (toString walletABalance)
  have hb := length_le_utf8ByteSize (toString walletBBalance)
  omega

/-- A balance table whose width fits is printed whole, and all its lines but the header have the same cells. -/
theorem run_printBalanceTable {t : ℕ} (ht : colToken tokenSymbol issuerSupply walletABalance walletBBalance = t)
    (hfits : widthArgument t = .ok ()) :
    ∃ top rest, Op.run (printBalanceTable tokenSymbol issuerSupply walletABalance walletBBalance) [] =
        (.ok (), (top :: hdrRow t tokenSymbol :: rest).map .line) ∧
      rest.length = 5 ∧ ∀ l ∈ top :: rest, l.widths = [10, t, 8] := by
  have hlt := length_lt_colToken tokenSymbol issuerSupply walletABalance walletBBalance
  rw [ht] at hlt
  simp only [List.forall_mem_cons] at hlt
  obtain ⟨-, hsupply, ha, hb, -⟩ := hlt
  refine ⟨separator '┌' '┬' '┐' colAcct t colRole, [separator '├' '┼' '┤' colAcct t colRole,
    balanceRow t "Issuer" (supplyStr issuerSupply) "Faucet", balanceRow t "Wallet A" (toString walletABalance) "Holder",
    balanceRow t "Wallet B" (toString walletBBalance) "Holder", separator '└' '┴' '┘' colAcct t colRole], ?_, rfl, ?_⟩
  · rw [printBalanceTable, ht, hfits]
    rfl
  · simp only [List.forall_mem_cons, List.not_mem_nil, false_implies, implies_true, and_true]
    refine ⟨widths_separator .., widths_separator .., ?_, ?_, ?_, widths_separator ..⟩
    · exact widths_balanceRow (by decide) hsupply (by decide)
    · exact widths_balanceRow (by decide) ha (by decide)
    · exact widths_balanceRow (by decide) hb (by decide)

/-- A symbol with a few bytes less than 16 bits can count fits, whatever the numbers are. -/
theorem widthArgument_colToken (h : tokenSymbol.utf8ByteSize < 2 ^ 16 - 2) :
    widthArgument (colToken tokenSymbol issuerSupply walletABalance walletBBalance) = .ok () := by
  apply if_pos
  have hsupply := utf8ByteSize_toString_le issuerSupply
  have ha := utf8ByteSize_toString_le walletABalance
  have hb := utf8ByteSize_toString_le walletBBalance
  have hstr : (supplyStr issuerSupply).utf8ByteSize = 3 + (toString issuerSupply).utf8ByteSize :=
    String.utf8ByteSize_append
  simp only [colToken]
  omega

/-- The lines of a balance table. -/
def balanceLines (tokenSymbol : String) (issuerSupply walletABalance walletBBalance : UInt64) : List Line :=
  let t := colToken tokenSymbol issuerSupply walletABalance walletBBalance
  [separator '┌' '┬' '┐' colAcct t colRole, hdrRow t tokenSymbol, separator '├' '┼' '┤' colAcct t colRole,
    balanceRow t "Issuer" (supplyStr issuerSupply) "Faucet", balanceRow t "Wallet A" (toString walletABalance) "Holder",
    balanceRow t "Wallet B" (toString walletBBalance) "Holder", separator '└' '┴' '┘' colAcct t colRole]

/-- They are printed after what was printed before. -/
theorem run_printBalanceTable_append
    (hfits : widthArgument (colToken tokenSymbol issuerSupply walletABalance walletBBalance) = .ok ())
    (out : List Printed) : Op.run (printBalanceTable tokenSymbol issuerSupply walletABalance walletBBalance) out =
      (.ok (), out ++ (balanceLines tokenSymbol issuerSupply walletABalance walletBBalance).map .line) := by
  have hwidth : Op.run (Op.ofExcept (widthArgument (colToken tokenSymbol issuerSupply walletABalance walletBBalance)))
      out = (.ok (), out) := by
    rw [Op.run_ofExcept, hfits]
  rw [printBalanceTable, Op.run_bind_of_ok hwidth]
  iterate 6 rw [Op.run_bind_of_ok (run_println _ _)]
  rw [run_println]
  simp [balanceLines]

/-- A balance table whose width does not fit is not printed. -/
theorem run_printBalanceTable_error {e : Panic}
    (h : widthArgument (colToken tokenSymbol issuerSupply walletABalance walletBBalance) = .error e) :
    Op.run (printBalanceTable tokenSymbol issuerSupply walletABalance walletBBalance) [] = (.error e, []) := by
  rw [printBalanceTable, h]
  rfl

/-- The tables. -/
inductive TableCall
  | balanceTable (tokenSymbol : String) (issuerSupply walletABalance walletBBalance : UInt64)
  | signerTable (signers : List (String × String × Bool)) (threshold : UInt32)
deriving DecidableEq, Repr

/-- Printing a table. -/
def TableCall.print : TableCall → Op (List Printed) Panic Unit
  | .balanceTable tokenSymbol issuerSupply walletABalance walletBBalance =>
    printBalanceTable tokenSymbol issuerSupply walletABalance walletBBalance
  | .signerTable signers threshold => printSignerTable signers threshold

/-- The names of the signers fit their column. -/
def TableCall.NamesFit : TableCall → Prop
  | .balanceTable .. => True
  | .signerTable signers _ => ∀ r ∈ signers, r.1.length ≤ 9

/-- A table is printed, and all its lines have the same length, with their edges at the same offsets. -/
def TableCall.LaidOut (call : TableCall) : Prop :=
  tableLines (Op.run call.print []).2 ≠ [] ∧ Aligned (tableLines (Op.run call.print []).2)

/-- Where one line of such a table has its edges, the text of every line has edges. -/
theorem TableCall.LaidOut.edges {call : TableCall} (h : call.LaidOut) {l l' : Line}
    (hl : l ∈ tableLines (Op.run call.print []).2) (hl' : l' ∈ tableLines (Op.run call.print []).2) :
    l.offsets.map (fun o => l'.text.toList[o]?) = l'.edges.map some := by
  rw [(h.2 l hl l' hl').2]
  exact l'.getElem?_offsets

/-- No balance table is laid out: its header is two characters longer than its other lines. -/
theorem not_laidOut_balanceTable (tokenSymbol : String) (issuerSupply walletABalance walletBBalance : UInt64) :
    ¬ (TableCall.balanceTable tokenSymbol issuerSupply walletABalance walletBBalance).LaidOut := by
  rintro ⟨hne, haligned⟩
  cases hfits : widthArgument (colToken tokenSymbol issuerSupply walletABalance walletBBalance) with
  | error e =>
    apply hne
    rw [TableCall.print, run_printBalanceTable_error hfits]
    rfl
  | ok _ =>
    obtain ⟨top, rest, hrun, -, hwidths⟩ := run_printBalanceTable rfl hfits
    rw [TableCall.print, hrun, tableLines_map] at haligned
    have hsymbol := length_lt_colToken tokenSymbol issuerSupply walletABalance walletBBalance _ List.mem_cons_self
    have hheader := widths_hdrRow (Nat.le_of_lt hsymbol)
    have hlength := (haligned top List.mem_cons_self _ (List.mem_cons_of_mem _ List.mem_cons_self)).1
    rw [top.length_text, Line.length_text, hwidths top List.mem_cons_self, hheader] at hlength
    simp only [List.map_cons, List.map_nil, List.sum_cons, List.sum_nil] at hlength
    omega

/-- **Table layout.** With names that fit, a table is laid out if and only if it is a table of signers. -/
theorem laidOut_iff {call : TableCall} (hnames : call.NamesFit) :
    call.LaidOut ↔ ∃ signers threshold, call = .signerTable signers threshold := by
  cases call with
  | balanceTable tokenSymbol issuerSupply walletABalance walletBBalance =>
    refine iff_of_false (not_laidOut_balanceTable _ _ _ _) ?_
    rintro ⟨_, _, ⟨⟩⟩
  | signerTable signers threshold =>
    have hframed := printSignerTable_framed hnames threshold
    exact iff_of_true ⟨hframed.1, aligned_of_widths hframed.2⟩ ⟨signers, threshold, rfl⟩

end Layout

/-- A table of two signers. -/
theorem laidOut_two_signers : (TableCall.signerTable [("Signer 1", "0x4eac11112222333344440324", true),
    ("Signer 2", "0xea7e2af4", false)] 2).LaidOut :=
  (laidOut_iff (by simp only [TableCall.NamesFit]; decide)).2 ⟨_, _, rfl⟩

/-- The header of the balances of `USDB` sticks out of the table. -/
theorem usdb_header_sticks_out :
    (((tableLines (Op.run (TableCall.balanceTable "USDB" 1000 1000 0).print []).2).take 3).map Line.text =
        ["┌──────────┬─────────┬────────┐", "│ Account  │ USDB     │ Role    │", "├──────────┼─────────┼────────┤"]) ∧
      ¬ (TableCall.balanceTable "USDB" 1000 1000 0).LaidOut :=
  ⟨by decide, not_laidOut_balanceTable "USDB" 1000 1000 0⟩

end BraleMiden.Display
