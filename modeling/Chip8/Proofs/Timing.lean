import Chip8.Timing
import Mathlib.Tactic.Ring

/-!
# When a cycle takes time

A cycle takes one second divided by the rate, rounded twice: the quotient to 53 significant bits,
and that to whole nanoseconds. Neither rounding moves a number by more than half a unit of its last
place, so the time is zero exactly when the rate is above two cycles for each nanosecond. At that
rate itself the time is half a nanosecond, and only because its quotient is not exact is it rounded
up.
-/
namespace Chip8.Timing

/-! ## Rounding -/

/-- What is rounded moves by at most half of a unit, here with the fractions cleared. -/
theorem roundHalfEven_near (num : Nat) {den : Nat} (positive : 0 < den) :
    2 * num ≤ 2 * (den * roundHalfEven num den) + den ∧
      2 * (den * roundHalfEven num den) ≤ 2 * num + den := by
  have parts : den * (num / den) + num % den = num := Nat.div_add_mod num den
  have rest : num % den < den := Nat.mod_lt num positive
  unfold roundHalfEven
  dsimp only
  split
  case isTrue below => omega
  case isFalse notBelow =>
    split
    case isTrue above =>
      rw [Nat.mul_add_one]
      omega
    case isFalse notAbove =>
      -- halfway between two numbers either of them will do
      rcases Nat.mod_two_eq_zero_or_one (num / den) with even | odd
      · rw [even, Nat.add_zero]
        omega
      · rw [odd, Nat.mul_add_one]
        omega

/-- At most one half is rounded to zero, the half because zero is even. -/
theorem roundHalfEven_eq_zero {num den : Nat} (half : 2 * num ≤ den) (positive : 0 < den) :
    roundHalfEven num den = 0 := by
  have small : num < den := by omega
  have whole : num / den = 0 := Nat.div_eq_of_lt small
  have rest : num % den = num := Nat.mod_eq_of_lt small
  simp only [roundHalfEven, whole, rest, if_neg (Nat.not_lt.mpr half), ite_self]

/-- Only what is more than one half is rounded to something. -/
theorem roundHalfEven_pos_iff {num den : Nat} (positive : 0 < den) :
    0 < roundHalfEven num den ↔ den < 2 * num := by
  constructor
  · intro some
    apply Nat.lt_of_not_le
    intro half
    rw [roundHalfEven_eq_zero half positive] at some
    exact Nat.lt_irrefl 0 some
  · intro more
    apply Nat.pos_of_ne_zero
    intro zero
    obtain ⟨lower, _⟩ := roundHalfEven_near num positive
    rw [zero, Nat.mul_zero] at lower
    omega

theorem le_two_pow_log2Up (n : Nat) : n ≤ 2 ^ log2Up n := by
  unfold log2Up
  split
  case isTrue small => simpa using small
  case isFalse large =>
    have below : n - 1 < 2 ^ ((n - 1).log2 + 1) := Nat.lt_log2_self
    omega

/-! ## The time of a cycle -/

def divisor (rate : UInt32) : Nat := max 1 rate.toNat

def quotientScale (rate : UInt32) : Nat := 2 ^ (52 + log2Up (divisor rate))

def quotientBits (rate : UInt32) : Nat := roundHalfEven (quotientScale rate) (divisor rate)

theorem cycleTime_eq (rate : UInt32) :
    cycleTime rate = roundHalfEven (quotientBits rate * nanoseconds) (quotientScale rate) := rfl

theorem divisor_pos (rate : UInt32) : 0 < divisor rate := Nat.le_max_left _ _

/-- The scale leaves room for far more than the nanoseconds of a second in each unit. -/
theorem lt_quotientScale (rate : UInt32) : nanoseconds * divisor rate < quotientScale rate := by
  have enough : divisor rate ≤ 2 ^ log2Up (divisor rate) := le_two_pow_log2Up _
  have positive : 0 < divisor rate := divisor_pos rate
  calc nanoseconds * divisor rate
      < 2 ^ 52 * divisor rate := Nat.mul_lt_mul_of_pos_right (by decide) positive
    _ ≤ 2 ^ 52 * 2 ^ log2Up (divisor rate) := Nat.mul_le_mul_left _ enough
    _ = quotientScale rate := (Nat.pow_add 2 52 _).symm

/-- A cycle takes some time when half of its scale is less than the nanoseconds of its quotient. -/
theorem cycleTime_pos_iff_quotient (rate : UInt32) :
    0 < cycleTime rate ↔ quotientScale rate < 2 * nanoseconds * quotientBits rate := by
  have positive : 0 < quotientScale rate := Nat.two_pow_pos _
  rw [cycleTime_eq, roundHalfEven_pos_iff positive, Nat.mul_comm (quotientBits rate),
    Nat.mul_assoc]

/-- Below two cycles for each nanosecond the quotient is more than half a nanosecond, even when it
was rounded down. -/
theorem cycleTime_pos_of_lt {rate : UInt32} (slow : divisor rate < 2 * nanoseconds) :
    0 < cycleTime rate := by
  rw [cycleTime_pos_iff_quotient]
  obtain ⟨lower, _⟩ := roundHalfEven_near (quotientScale rate) (divisor_pos rate)
  have room := lt_quotientScale rate
  change _ ≤ 2 * (_ * quotientBits rate) + _ at lower
  generalize divisor rate = d, quotientScale rate = s, quotientBits rate = q, nanoseconds = n at *
  by_contra small
  have short : 2 * n * q ≤ s := Nat.le_of_not_lt small
  apply Nat.lt_irrefl (2 * n * s)
  calc 2 * n * s
      = n * (2 * s) := by ring
    _ ≤ n * (2 * (d * q) + d) := Nat.mul_le_mul_left n lower
    _ = d * (2 * n * q) + n * d := by ring
    _ ≤ d * s + n * d := Nat.add_le_add_right (Nat.mul_le_mul_left d short) _
    _ < d * s + s := Nat.add_lt_add_left room _
    _ = (d + 1) * s := by ring
    _ ≤ 2 * n * s := Nat.mul_le_mul_right s slow

/-- Above two cycles for each nanosecond the quotient is at most half a nanosecond, even when it was
rounded up. -/
theorem cycleTime_eq_zero_of_lt {rate : UInt32} (fast : 2 * nanoseconds < divisor rate) :
    cycleTime rate = 0 := by
  apply Nat.eq_zero_of_not_pos
  rw [cycleTime_pos_iff_quotient]
  obtain ⟨_, upper⟩ := roundHalfEven_near (quotientScale rate) (divisor_pos rate)
  have room := lt_quotientScale rate
  change 2 * (_ * quotientBits rate) ≤ _ at upper
  generalize divisor rate = d, quotientScale rate = s, quotientBits rate = q, nanoseconds = n at *
  intro large
  apply Nat.lt_irrefl (d * s)
  calc d * s
      ≤ d * (2 * n * q) := Nat.mul_le_mul_left d (Nat.le_of_lt large)
    _ = n * (2 * (d * q)) := by ring
    _ ≤ n * (2 * s + d) := Nat.mul_le_mul_left n upper
    _ = 2 * n * s + n * d := by ring
    _ < 2 * n * s + s := Nat.add_lt_add_left room _
    _ = (2 * n + 1) * s := by ring
    _ ≤ d * s := Nat.mul_le_mul_right s fast

/-- The rate with two cycles for each nanosecond. -/
def topRate : UInt32 := 2000000000

/-- The quotient of the top rate is rounded up, and so is the half of a nanosecond. -/
theorem cycleTime_topRate : cycleTime topRate = 1 := by decide +kernel

/-- A cycle takes some time up to the top rate and none above it. -/
theorem cycleTime_pos_iff (rate : UInt32) : 0 < cycleTime rate ↔ rate ≤ topRate := by
  have top : topRate.toNat = 2 * nanoseconds := rfl
  rw [UInt32.le_iff_toNat_le, top]
  rcases Nat.lt_trichotomy rate.toNat (2 * nanoseconds) with slow | equal | fast
  · have less : divisor rate < 2 * nanoseconds := Nat.max_lt.mpr ⟨by decide, slow⟩
    exact iff_of_true (cycleTime_pos_of_lt less) (Nat.le_of_lt slow)
  · have same : rate = topRate := UInt32.toNat_inj.mp (equal.trans top.symm)
    rw [same, cycleTime_topRate]
    exact iff_of_true Nat.one_pos (Nat.le_of_eq top)
  · have more : 2 * nanoseconds < divisor rate := Nat.lt_of_lt_of_le fast (Nat.le_max_right _ _)
    rw [cycleTime_eq_zero_of_lt more]
    exact iff_of_false (Nat.lt_irrefl 0) (Nat.not_le.mpr fast)

end Chip8.Timing
