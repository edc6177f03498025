import Chip8.Proofs.Cycle
import Chip8.Proofs.Execution

/-!
# Arithmetic and the flag

What the words `8XYN` and `7XNN` make of their operands. Five of them set the flag, and for these
the result and the flag together hold what the exact result is: one equation between integers for
each word. The operands are read before anything is written, and the flag is written last; so any
two of the registers may be the same one.
-/
namespace Chip8

/-- The equation between the operands, the result and the flag of a word `8XYN` that sets the flag.
Where it subtracts, a flag of zero is a borrow. One pair of a byte and a bit solves it. -/
def Balances (n : UInt8) (a b value flag : Int) : Prop :=
  match n.toNat with
  | 0x4 => value + 256 * flag = a + b
  | 0x5 => value - 256 * (1 - flag) = a - b
  | 0x6 => 2 * value + flag = a
  | 0x7 => value - 256 * (1 - flag) = b - a
  | 0xE => value + 256 * flag = 2 * a
  | _ => False

namespace Machine

/-- A cycle executes an instruction that gives one register a value. -/
structure Sets (machine : Machine) (x value : UInt8) : Prop where
  executed : ∃ instruction, machine.step.result = .ok (.executed instruction)
  value : machine.step.machine.reg x = value
  others : ∀ z : UInt8, z.toNat < 16 → z ≠ x → machine.step.machine.reg z = machine.reg z

/-- A cycle executes an instruction that gives a register a value and the flag register a flag. In
the flag register the value is lost. -/
structure SetsFlagged (machine : Machine) (x value : UInt8) (flag : Bool) : Prop where
  executed : ∃ instruction, machine.step.result = .ok (.executed instruction)
  flag : (machine.step.machine.reg 0xF).toNat = flag.toNat
  value : x ≠ 0xF → machine.step.machine.reg x = value
  others : ∀ z : UInt8, z.toNat < 16 → z ≠ x → z ≠ 0xF →
    machine.step.machine.reg z = machine.reg z

variable {machine : Machine} {x y : UInt8}

/-! ## Results and flags as integers -/

/-- A condition as a number. -/
theorem toNat_decide (p : Prop) [Decidable p] : (decide p).toNat = if p then 1 else 0 := by
  by_cases holds : p
  · simp [holds]
  · simp [holds]

/-- A sum of bytes is short of the exact one by a carry. -/
theorem toNat_add_carry (a b : UInt8) :
    ((a + b).toNat : Int) + 256 * (decide (256 ≤ a.toNat + b.toNat)).toNat =
      a.toNat + b.toNat := by
  have small := a.toNat_lt
  have small' := b.toNat_lt
  simp only [UInt8.toNat_add, toNat_decide]
  split <;> omega

/-- A difference of bytes is more than the exact one by a borrow. -/
theorem toNat_sub_borrow (a b : UInt8) :
    ((a - b).toNat : Int) - 256 * (1 - (decide (b ≤ a)).toNat) = a.toNat - b.toNat := by
  have small := a.toNat_lt
  have small' := b.toNat_lt
  simp only [UInt8.toNat_sub, toNat_decide, UInt8.le_iff_toNat_le]
  split <;> omega

/-- A half is short by the bit that was shifted out. -/
theorem toNat_shiftRight_bit (a : UInt8) :
    2 * ((a >>> 1).toNat : Int) + (a.toNat % 2 == 1).toNat = a.toNat := by
  have half : (a >>> 1).toNat = a.toNat / 2 := by simp [Nat.shiftRight_eq_div_pow]
  have low : (a.toNat % 2 == 1) = decide (a.toNat % 2 = 1) := rfl
  simp only [half, low, toNat_decide]
  split <;> omega

/-- Shifting out the highest bit is the carry of doubling. -/
theorem toNat_shiftLeft_bit (a : UInt8) :
    ((a <<< 1).toNat : Int) + 256 * (decide (128 ≤ a.toNat)).toNat = 2 * a.toNat := by
  have small := a.toNat_lt
  have twice : (a <<< 1).toNat = a.toNat * 2 % 256 := by simp [Nat.shiftLeft_eq]
  simp only [twice, toNat_decide]
  split <;> omega

/-! ## Instructions -/

/-- The words that set the flag stand for instructions whose result and flag balance. -/
theorem execute_balances (machine : Machine) (x y : UInt8) {n : UInt8}
    (flagged : n ∈ [0x4, 0x5, 0x6, 0x7, 0xE]) :
    ∃ instruction value flag, Instruction.arithmetic? x y n = some instruction ∧
      machine.execute instruction = .ok (proceed (machine.setRegFlag x value flag)) ∧
      Balances n (machine.reg x).toNat (machine.reg y).toNat value.toNat flag.toNat := by
  simp only [List.mem_cons, List.not_mem_nil, or_false] at flagged
  rcases flagged with rfl | rfl | rfl | rfl | rfl
  · exact ⟨.add x y, _, _, rfl, rfl, toNat_add_carry _ _⟩
  · exact ⟨.sub x y, _, _, rfl, rfl, toNat_sub_borrow _ _⟩
  · exact ⟨.shiftRight x, _, _, rfl, rfl, toNat_shiftRight_bit _⟩
  · exact ⟨.subReverse x y, _, _, rfl, rfl, toNat_sub_borrow _ _⟩
  · exact ⟨.shiftLeft x, _, _, rfl, rfl, toNat_shiftLeft_bit _⟩

/-- The words that leave the flag alone stand for instructions that give one register a value. -/
theorem execute_combines (machine : Machine) (x y : UInt8) {n value : UInt8}
    (plain : (n, value) ∈ [(0x0, machine.reg y), (0x1, machine.reg x ||| machine.reg y),
      (0x2, machine.reg x &&& machine.reg y), (0x3, machine.reg x ^^^ machine.reg y)]) :
    ∃ instruction, Instruction.arithmetic? x y n = some instruction ∧
      machine.execute instruction = .ok (proceed (machine.setReg x value)) := by
  simp only [List.mem_cons, List.not_mem_nil, or_false, Prod.mk.injEq] at plain
  rcases plain with ⟨rfl, rfl⟩ | ⟨rfl, rfl⟩ | ⟨rfl, rfl⟩ | ⟨rfl, rfl⟩
  · exact ⟨.copy x y, rfl, rfl⟩
  · exact ⟨.or x y, rfl, rfl⟩
  · exact ⟨.and x y, rfl, rfl⟩
  · exact ⟨.xor x y, rfl, rfl⟩

/-! ## Cycles -/

variable {word : UInt16} {instruction : Instruction} {value : UInt8}

theorem sets_of_execute (free : machine.keyWait = none)
    (held : machine.memory.HoldsWord machine.counter.toNat word) (hx : x.toNat < 16)
    (decoded : Instruction.ofWord? word = some instruction)
    (done : machine.execute instruction = .ok (proceed (machine.setReg x value))) :
    machine.Sets x value := by
  have read := Memory.readWord_eq_ok_iff.mpr held
  have after : ∀ z, machine.step.machine.reg z = (machine.setReg x value).reg z :=
    step_reg free read decoded done
  constructor
  · exact ⟨instruction, congrArg Outcome.result (step_of_executes free read decoded done)⟩
  · rw [after, reg_setReg machine value hx hx, if_pos rfl]
  · intro z hz other
    rw [after, reg_setReg machine value hx hz, if_neg other]

theorem setsFlagged_of_execute {flag : Bool} (free : machine.keyWait = none)
    (held : machine.memory.HoldsWord machine.counter.toNat word) (hx : x.toNat < 16)
    (decoded : Instruction.ofWord? word = some instruction)
    (done : machine.execute instruction = .ok (proceed (machine.setRegFlag x value flag))) :
    machine.SetsFlagged x value flag := by
  have read := Memory.readWord_eq_ok_iff.mpr held
  have after : ∀ z, machine.step.machine.reg z = (machine.setRegFlag x value flag).reg z :=
    step_reg free read decoded done
  constructor
  · exact ⟨instruction, congrArg Outcome.result (step_of_executes free read decoded done)⟩
  · rw [after, reg_setRegFlag machine value flag hx (by decide), if_pos rfl]
    cases flag <;> rfl
  · intro other
    rw [after, reg_setRegFlag machine value flag hx hx, if_neg other, if_pos rfl]
  · intro z hz other last
    rw [after, reg_setRegFlag machine value flag hx hz, if_neg last, if_neg other]

/-- A machine that waits for no key executes the words `8XYN` and `7XNN` so, whichever registers `X`
and `Y` are, the same one or the flag register included. `8XY4` to `8XY7` and `8XYE` leave a result
and a flag that balance with the operands as they were; `8XY0` to `8XY3` give `VX` the other operand
or what its bits and those of `VX` are together, and `7XNN` a sum that wraps around. No other
register changes, the flag register included in these five. -/
theorem arithmetic_exact (free : machine.keyWait = none) (hx : x.toNat < 16)
    (hy : y.toNat < 16) :
    (∀ n ∈ ([0x4, 0x5, 0x6, 0x7, 0xE] : List UInt8), machine.memory.HoldsWord machine.counter.toNat
        (Instruction.nibbles 0x8 x.toNat y.toNat n.toNat) →
      ∃ value flag, Balances n (machine.reg x).toNat (machine.reg y).toNat value.toNat flag.toNat ∧
        machine.SetsFlagged x value flag) ∧
    (∀ n value : UInt8, (n, value) ∈ [(0x0, machine.reg y), (0x1, machine.reg x ||| machine.reg y),
        (0x2, machine.reg x &&& machine.reg y), (0x3, machine.reg x ^^^ machine.reg y)] →
      machine.memory.HoldsWord machine.counter.toNat
        (Instruction.nibbles 0x8 x.toNat y.toNat n.toNat) →
      machine.Sets x value) ∧
    ∀ byte, machine.memory.HoldsWord machine.counter.toNat (Instruction.withByte 0x7 x byte) →
      ∃ value, value.toNat = ((machine.reg x).toNat + byte.toNat) % 256 ∧
        machine.Sets x value := by
  refine ⟨fun n flagged held => ?flagged, fun n value plain held => ?plain,
    fun byte held => ?byte⟩
  case flagged =>
    have hn : n.toNat < 16 := by
      simp only [List.mem_cons, List.not_mem_nil, or_false] at flagged
      rcases flagged with rfl | rfl | rfl | rfl | rfl <;> decide
    obtain ⟨instruction, value, flag, decoded, done, balance⟩ :=
      execute_balances machine x y flagged
    have known := (Instruction.ofWord?_arithmetic y n hx hy hn).trans decoded
    exact ⟨value, flag, balance, setsFlagged_of_execute free held hx known done⟩
  case plain =>
    have hn : n.toNat < 16 := by
      simp only [List.mem_cons, List.not_mem_nil, or_false, Prod.mk.injEq] at plain
      rcases plain with ⟨rfl, _⟩ | ⟨rfl, _⟩ | ⟨rfl, _⟩ | ⟨rfl, _⟩ <;> decide
    obtain ⟨instruction, decoded, done⟩ := execute_combines machine x y plain
    have known := (Instruction.ofWord?_arithmetic y n hx hy hn).trans decoded
    exact sets_of_execute free held hx known done
  case byte =>
    have known := Instruction.ofWord?_encode (.addByte x byte) hx
    exact ⟨machine.reg x + byte, UInt8.toNat_add _ _, sets_of_execute free held hx known rfl⟩

/-- A machine whose flag register holds 200 and is added to itself. -/
def doublingFlag : Machine :=
  ((powerOn 500 (.constant 0)).load [0x8F, 0xF4]).machine.setReg 0xF 200

/-- The sum is 400, so that the flag is set and the rest of the sum is lost. -/
theorem doublingFlag_carries :
    (doublingFlag.step.machine.reg 0xF).toNat = 1 ∧
      doublingFlag.step.machine.reg 0xE = doublingFlag.reg 0xE := by
  have looks : ((doublingFlag.memory.readWord 0x200).toOption, (doublingFlag.reg 0xF).toNat) =
      (some 0x8FF4, 200) := by
    decide +kernel
  simp only [Prod.mk.injEq] at looks
  obtain ⟨word, operand⟩ := looks
  have held : doublingFlag.memory.HoldsWord doublingFlag.counter.toNat
      (Instruction.nibbles 0x8 (0xF : UInt8).toNat (0xF : UInt8).toNat (0x4 : UInt8).toNat) :=
    Memory.readWord_eq_ok_iff.mp (ok_of_toOption word)
  obtain ⟨value, flag, balance, sets⟩ :=
    (arithmetic_exact (x := 0xF) (y := 0xF) rfl (by decide) (by decide)).1 0x4 (by decide) held
  rw [operand] at balance
  have sum : (value.toNat : Int) + 256 * flag.toNat = 200 + 200 := balance
  have small := value.toNat_lt
  have carried : flag.toNat = 1 := by
    have bit := flag.toNat_le
    omega
  exact ⟨sets.flag.trans carried, sets.others 0xE (by decide) (by decide) (by decide)⟩

end Machine
end Chip8
