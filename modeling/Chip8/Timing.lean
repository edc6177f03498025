/-!
# Timing

How the instruction rate sets the pace. The two timers count sixty times a second, so a fixed number
of cycles passes between two counts; and a cycle takes a whole number of nanoseconds.
-/
namespace Chip8.Timing

def defaultRate : UInt32 := 500

def timerRate : Nat := 60

/-- Cycles between two counts of the timers, at least one. -/
def cyclesPerTick (rate : UInt32) : Nat :=
  max 1 (rate.toNat / timerRate)

/-- The whole number nearest to `num / den`, the even one of two that are equally near. -/
def roundHalfEven (num den : Nat) : Nat :=
  let whole := num / den
  let rest := num % den
  if 2 * rest < den then whole
  else if den < 2 * rest then whole + 1
  else whole + whole % 2

/-- The least `k` with `n ≤ 2 ^ k`, for positive `n`. -/
def log2Up (n : Nat) : Nat :=
  if n ≤ 1 then 0 else (n - 1).log2 + 1

def nanoseconds : Nat := 1000000000

/-- Nanoseconds of a cycle: one second divided by the rate (at least one), the quotient kept to 53
significant bits, in nanoseconds to the nearest whole number. It is zero for very large rates. -/
def cycleTime (rate : UInt32) : Nat :=
  let divisor := max 1 rate.toNat
  let scale := Nat.pow 2 (52 + log2Up divisor)
  roundHalfEven (roundHalfEven scale divisor * nanoseconds) scale

end Chip8.Timing
