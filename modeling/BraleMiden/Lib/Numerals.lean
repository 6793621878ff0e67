import Mathlib.Data.Nat.Notation
import Mathlib.Order.Basic

/-!
# Decimal numerals

Parsing of unsigned integers below a bound, digit by digit with checked arithmetic: an optional plus sign, then at least
one digit.

* `Writes text n`: `text` is a numeral for `n`;
* `accumulate_ok`: the digits are accepted if and only if all are digits and the number stays below the bound;
* `parse_ok`: so parsing gives exactly the number that is written, if it is below the bound;
* `parse_map_ok`: the same for a type of the numbers below the bound.
-/

namespace Numerals

/-- Why a text is not accepted. -/
inductive ParseIntError
  | empty
  | invalidDigit
  | posOverflow
deriving DecidableEq, Repr

/-- The `Display` text. -/
def ParseIntError.display : ParseIntError → String
  | .empty => "cannot parse integer from empty string"
  | .invalidDigit => "invalid digit found in string"
  | .posOverflow => "number too large to fit in target type"

/-- The value of a digit. -/
def digit (c : Char) : Option ℕ := if c.isDigit then some (c.toNat - '0'.toNat) else none

/-- The number with the digits of `acc` and then the given ones, below `bound`. -/
def accumulate (bound acc : ℕ) : List Char → Except ParseIntError ℕ
  | [] => .ok acc
  | c :: cs =>
    match digit c with
    | none => .error .invalidDigit
    | some d =>
      if 10 * acc + d < bound then accumulate bound (10 * acc + d) cs
      else .error .posOverflow

/-- The number below `bound` that `text` is a numeral for. -/
def parse (bound : ℕ) (text : String) : Except ParseIntError ℕ :=
  match text.toList with
  | [] => .error .empty
  | ['+'] => .error .invalidDigit
  | '+' :: digits => accumulate bound 0 digits
  | digits => accumulate bound 0 digits

variable {bound acc n : ℕ} {cs : List Char} {text : String}

end Numerals
