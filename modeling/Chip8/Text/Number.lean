/-!
# Numbers in text

Whole numbers in decimal: at least one digit, after a sign where one is allowed. Numbers that do not
fit the asked range are refused.
-/
namespace Chip8.Text.Number

def value (digits : List Char) : Nat :=
  digits.foldl (fun sum digit => sum * 10 + (digit.toNat - '0'.toNat)) 0

/-- The number that digits stand for; there must be one and there must be nothing else. -/
def ofDigits? (digits : List Char) : Option Nat :=
  if digits ≠ [] ∧ digits.all Char.isDigit then some (value digits) else none

/-- A number without a sign or after a plus sign. -/
def unsigned? : List Char → Option Nat
  | '+' :: digits => ofDigits? digits
  | digits => ofDigits? digits

/-- A number without a sign or after a sign. -/
def signed? : List Char → Option Int
  | '-' :: digits => (ofDigits? digits).map fun n => -(n : Int)
  | digits => (unsigned? digits).map Int.ofNat

/-- A number of 64 bits, which takes no minus sign. -/
def word64? (text : String) : Option UInt64 :=
  match unsigned? text.toList with
  | some n => if n < UInt64.size then some n.toUInt64 else none
  | none => none

/-- A number of 32 bits, which may have a minus sign when it is zero. -/
def word32? (text : String) : Option UInt32 :=
  match signed? text.toList with
  | some n => if 0 ≤ n ∧ n < UInt32.size then some n.toNat.toUInt32 else none
  | none => none

end Chip8.Text.Number
