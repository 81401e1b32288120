/-!
# Decimal integers

Reading decimal digits, and signed integers of 32 bits. Leading zeros are allowed.
-/

namespace PredicateSql.Text

def natural? (digits : List Char) : Option Nat :=
  if digits ≠ [] ∧ digits.all Char.isDigit then some (Nat.ofDigitChars 10 digits 0) else none

/-- An integer of 32 bits with an optional sign; `none` also where it is out of range. -/
def int32? : List Char → Option Int32
  | '-' :: digits => do
    let n ← natural? digits
    if n ≤ 2147483648 then some (Int32.ofInt (-n)) else none
  | '+' :: digits => do
    let n ← natural? digits
    if n < 2147483648 then some (Int32.ofNat n) else none
  | digits => do
    let n ← natural? digits
    if n < 2147483648 then some (Int32.ofNat n) else none

end PredicateSql.Text
