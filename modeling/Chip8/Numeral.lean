/-!
# Numerals

Natural numbers written in a base, filled on the left up to a least width. A number that needs
more digits than the width is written in full, so nothing is ever cut off.
-/
namespace Chip8.Numeral

/-- The digits of `n` in base `b`, most significant first, after as many `fill` characters as the
least width asks for. -/
def padded (b width : Nat) (fill : Char) (n : Nat) : List Char :=
  (Nat.toDigits b n).leftpad width fill

/-- Lower-case hexadecimal, filled with zeros. -/
def hex (width n : Nat) : String :=
  String.ofList (padded 16 width '0' n)

def hexUpper (width n : Nat) : String :=
  String.ofList ((padded 16 width '0' n).map Char.toUpper)

def binary (width n : Nat) : String :=
  String.ofList (padded 2 width '0' n)

def decimal (n : Nat) : String :=
  String.ofList (Nat.toDigits 10 n)

/-- Decimal moved to the right edge of a column, filled with blanks. -/
def column (width n : Nat) : String :=
  String.ofList (padded 10 width ' ' n)

end Chip8.Numeral
