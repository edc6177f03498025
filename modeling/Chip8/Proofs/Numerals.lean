import Chip8.Numeral
import Mathlib.Tactic.IntervalCases

/-!
# Digits of a number

A number that is filled up to a width ends in its last digit, and what stands before that is the
quotient filled up to one place less. So a word in four upper-case hexadecimal digits is its four
nibbles in order. The digits can be read again, however many of them have been filled in.
-/
namespace Chip8.Numeral

def hexDigits : List Char :=
  ['0', '1', '2', '3', '4', '5', '6', '7', '8', '9', 'A', 'B', 'C', 'D', 'E', 'F']

/-- The upper-case hexadecimal digit of the last nibble of a number. -/
def nibble (n : Nat) : Char :=
  hexDigits.getD (n % 16) '0'

/-- The last digit comes off the end. -/
theorem padded_succ {b width n : Nat} (base : 1 < b) (some : 0 < width) :
    padded b (width + 1) '0' n = padded b width '0' (n / b) ++ [Nat.digitChar (n % b)] := by
  have zero : Nat.toDigits b 0 = ['0'] := Nat.toDigits_of_lt_base (by omega)
  by_cases small : n < b
  · have quotient : n / b = 0 := Nat.div_eq_of_lt small
    obtain ⟨less, rfl⟩ : ∃ less, width = less + 1 := ⟨width - 1, by omega⟩
    simp only [padded, Nat.toDigits_of_lt_base small, quotient, zero, Nat.mod_eq_of_lt small,
      List.leftpad, List.length_singleton, Nat.add_sub_cancel, List.replicate_succ']
  · have large : b ≤ n := Nat.le_of_not_lt small
    simp only [padded, Nat.toDigits_of_base_le base large, List.leftpad, List.length_append,
      List.length_singleton, Nat.add_sub_add_right, List.append_assoc]

theorem padded_one {b n : Nat} (small : n < b) : padded b 1 '0' n = [Nat.digitChar (n % b)] := by
  simp [padded, Nat.toDigits_of_lt_base small, Nat.mod_eq_of_lt small, List.leftpad]

theorem toUpper_digitChar (n : Nat) : (Nat.digitChar (n % 16)).toUpper = nibble n := by
  have small : n % 16 < 16 := Nat.mod_lt n (by decide)
  unfold nibble
  generalize n % 16 = d at small
  interval_cases d <;> rfl

/-- A number of four nibbles in four digits. -/
theorem hexUpper_four {n : Nat} (small : n < 0x10000) :
    hexUpper 4 n =
      String.ofList [nibble (n / 0x1000), nibble (n / 0x100), nibble (n / 0x10), nibble n] := by
  have base : 1 < 16 := by decide
  have top : n / 16 / 16 / 16 < 16 := by omega
  rw [hexUpper, padded_succ base (by decide), padded_succ base (by decide),
    padded_succ base (by decide), padded_one top]
  simp only [List.map_cons, List.map_nil, toUpper_digitChar, Nat.div_div_eq_div_mul,
    List.cons_append, List.nil_append, Nat.reduceMul]

/-! ## Reading a number -/

/-- The value of a digit, in either case. -/
def digitValue (digit : Char) : Nat :=
  hexDigits.idxOf digit.toUpper

/-- The number that digits stand for, the most significant first. -/
def value (b : Nat) (digits : List Char) : Nat :=
  digits.foldl (fun n digit => b * n + digitValue digit) 0

theorem digitValue_digitChar {d : Nat} (small : d < 16) : digitValue (Nat.digitChar d) = d := by
  interval_cases d <;> rfl

theorem value_concat (b : Nat) (digits : List Char) (digit : Char) :
    value b (digits ++ [digit]) = b * value b digits + digitValue digit := by
  simp [value]

theorem value_toDigits {b : Nat} (base : 1 < b) (small : b ≤ 16) (n : Nat) :
    value b (Nat.toDigits b n) = n := by
  induction n using Nat.strongRecOn with
  | ind n ih =>
    by_cases single : n < b
    · rw [Nat.toDigits_of_lt_base single, value, List.foldl_cons, List.foldl_nil, Nat.mul_zero,
        Nat.zero_add, digitValue_digitChar (by omega)]
    · have large : b ≤ n := Nat.le_of_not_lt single
      have last : n % b < b := Nat.mod_lt n (by omega)
      have less : n / b < n := Nat.div_lt_self (by omega) base
      rw [Nat.toDigits_of_base_le base large, value_concat, ih _ less,
        digitValue_digitChar (by omega), Nat.div_add_mod]

/-- Zeros in front do not count. -/
theorem value_leftpad (b width : Nat) (digits : List Char) :
    value b (digits.leftpad width '0') = value b digits := by
  have zeros : ∀ k, value b (List.replicate k '0') = 0 := by
    intro k
    induction k with
    | zero => rfl
    | succ k ih =>
      rw [List.replicate_succ', value_concat, ih]
      rfl
  rw [List.leftpad, value, List.foldl_append, ← value, zeros, ← value]

theorem value_padded {b : Nat} (base : 1 < b) (small : b ≤ 16) (width n : Nat) :
    value b (padded b width '0' n) = n := by
  rw [padded, value_leftpad, value_toDigits base small]

/-! ## The characters of a number -/

theorem mem_toDigits {b : Nat} (base : 1 < b) {n : Nat} {digit : Char}
    (member : digit ∈ Nat.toDigits b n) : ∃ d < b, digit = Nat.digitChar d := by
  induction n using Nat.strongRecOn with
  | ind n ih =>
    by_cases single : n < b
    · rw [Nat.toDigits_of_lt_base single] at member
      exact ⟨n, single, List.mem_singleton.mp member⟩
    · have large : b ≤ n := Nat.le_of_not_lt single
      have less : n / b < n := Nat.div_lt_self (by omega) base
      rw [Nat.toDigits_of_base_le base large] at member
      rcases List.mem_append.mp member with earlier | last
      · exact ih _ less earlier
      · exact ⟨n % b, Nat.mod_lt n (by omega), List.mem_singleton.mp last⟩

theorem mem_padded {b : Nat} (base : 1 < b) {width n : Nat} {digit : Char}
    (member : digit ∈ padded b width '0' n) : ∃ d < b, digit = Nat.digitChar d := by
  rcases List.mem_append.mp member with filled | own
  · exact ⟨0, by omega, List.eq_of_mem_replicate filled⟩
  · exact mem_toDigits base own

theorem blank_ne_nibble (n : Nat) : ' ' ≠ nibble n := by
  have small : n % 16 < 16 := Nat.mod_lt n (by decide)
  unfold nibble
  generalize n % 16 = d at small
  interval_cases d <;> decide

theorem blank_not_mem_padded {b : Nat} (base : 1 < b) (width n : Nat) :
    ' ' ∉ padded b width '0' n := by
  intro member
  obtain ⟨d, _, same⟩ := mem_padded base member
  simp at same

/-! ## Numbers in upper case -/

theorem digitValue_toUpper {d : Nat} (small : d < 16) :
    digitValue (Nat.digitChar d).toUpper = digitValue (Nat.digitChar d) := by
  interval_cases d <;> rfl

theorem toList_hexUpper (width n : Nat) :
    (hexUpper width n).toList = (padded 16 width '0' n).map Char.toUpper := by
  rw [hexUpper, String.toList_ofList]

/-- Upper-case letters have the same values. -/
theorem value_hexUpper (width n : Nat) : value 16 (hexUpper width n).toList = n := by
  have values : ∀ digits, value 16 digits =
      (digits.map digitValue).foldl (fun n digit => 16 * n + digit) 0 := fun digits =>
    List.foldl_map.symm
  have same : ((padded 16 width '0' n).map Char.toUpper).map digitValue =
      (padded 16 width '0' n).map digitValue := by
    rw [List.map_map]
    refine List.map_congr_left fun digit member => ?_
    obtain ⟨d, small, rfl⟩ := mem_padded (by decide) member
    exact digitValue_toUpper small
  rw [toList_hexUpper, values, same, ← values, value_padded (by decide) (Nat.le_refl 16)]

theorem le_length_hexUpper (width n : Nat) : width ≤ (hexUpper width n).toList.length := by
  rw [toList_hexUpper, List.length_map, padded, List.length_leftpad]
  exact Nat.le_max_left _ _

theorem length_hexUpper_two {n : Nat} (small : n < 0x100) :
    (hexUpper 2 n).toList.length = 2 := by
  have top : n / 16 < 16 := by omega
  rw [toList_hexUpper, List.length_map, padded_succ (by decide) (by decide), padded_one top]
  rfl

end Chip8.Numeral
