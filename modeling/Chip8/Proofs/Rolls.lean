import Chip8.Proofs.Moments

/-!
# Where random bytes go

An instruction that rolls takes one byte from the random source and gives a register what its mask
leaves of the byte. Nothing else takes any, and nothing puts a byte back, so the bytes of a source
go one each to the rolls of a run in their order.
-/
namespace Chip8

/-- The register and the mask of an executed `CXNN`. -/
def Moment.roll? (moment : Moment) : Option (UInt8 × UInt8) :=
  match moment.executed? with
  | some (.random x mask) => some (x, mask)
  | _ => none

/-- A source from which so many more bytes were drawn. -/
def RandomSource.advance (source : RandomSource) (count : Nat) : RandomSource :=
  { source with drawn := source.drawn + count }

theorem RandomSource.advance_advance (source : RandomSource) (first second : Nat) :
    (source.advance first).advance second = source.advance (first + second) := by
  simp only [advance, Nat.add_assoc]

namespace Machine

def rolls (machine : Machine) (operations : List Operation) : List Moment :=
  (machine.moments operations).filter fun moment => moment.roll?.isSome

variable {machine : Machine}

/-! ## One moment -/

/-- Among the instructions only a roll draws from the source. -/
theorem execute_random {instruction : Instruction} {effect : Effect}
    (done : machine.execute instruction = .ok effect) :
    effect.machine.random =
      match instruction with
      | .random _ _ => machine.random.advance 1
      | _ => machine.random := by
  by_cases other : instruction.part? = some .random
  · cases instruction with
    | random x mask =>
      cases done
      rfl
    | _ => cases other
  · have same : effect.machine.random = machine.random := execute_same done .random other
    cases instruction with
    | random x mask => exact absurd rfl other
    | _ => exact same

theorem step_random (machine : Machine) :
    machine.step.machine.random =
      match machine.step.result with
      | .ok (.executed (.random _ _)) => machine.random.advance 1
      | _ => machine.random := by
  have way := step_cases machine
  generalize machine.step = outcome at way ⊢
  cases way with
  | waits _ => exact countCycle_random machine
  | unreadable _ _ => rfl
  | skips _ _ _ => exact countCycle_random _
  | faults _ _ _ _ => rfl
  | executes free read decoded done =>
    rename_i word instruction effect
    refine (countCycle_random _).trans ((execute_random done).trans ?_)
    cases instruction <;> rfl

/-- A roll gives its register what the mask leaves of the next byte, and no other register. -/
theorem step_roll {x mask : UInt8}
    (rolled : machine.step.result = .ok (.executed (.random x mask))) :
    x.toNat < 16 ∧ machine.step.machine.registers =
      machine.registers.set x (machine.random.remaining 0 &&& mask) := by
  have way := step_cases machine
  generalize machine.step = outcome at way rolled ⊢
  cases way with
  | executes _ _ decoded done =>
    cases rolled
    cases done
    exact ⟨Instruction.ofWord?_encodable decoded, countCycle_registers _⟩
  | waits _ | unreadable _ _ | skips _ _ _ | faults _ _ _ _ => cases rolled

end Machine

namespace Moment

/-- An operation draws one byte if it rolls, and none if it does not. -/
theorem after_random (moment : Moment) :
    moment.after.random =
      if moment.roll?.isSome then moment.before.random.advance 1 else moment.before.random := by
  obtain ⟨machine, operation⟩ := moment
  by_cases stepped : operation = .step
  · subst stepped
    refine (Machine.step_random machine).trans ?_
    rw [roll?, executed?_step]
    cases machine.step.result with
    | error fault => rfl
    | ok cycle =>
      cases cycle with
      | executed instruction => cases instruction <;> rfl
      | awaitingKey | decodeFault _ => rfl
  · rw [roll?, executed?_of_ne_step stepped]
    cases operation with
    | step => exact absurd rfl stepped
    | load program =>
      obtain ⟨memory, same⟩ := Machine.load_eq machine program
      show (machine.load program).machine.random = machine.random
      rw [same]
    | input keys =>
      obtain ⟨registers, keyWait, _, same⟩ := Machine.applyKeys_eq machine keys
      show (machine.applyKeys keys).1.random = machine.random
      rw [same]
    | tick => rfl
    | reset =>
      show (machine.apply .reset).machine.random = machine.random
      simp only [Machine.apply, Machine.reset]

theorem roll?_eq_some_iff {moment : Moment} {x mask : UInt8} :
    moment.roll? = some (x, mask) ↔ moment.executed? = some (.random x mask) := by
  unfold roll?
  split <;> simp_all

end Moment

/-! ## Runs -/

namespace Machine

theorem rolls_cons (machine : Machine) (operation : Operation) (rest : List Operation) :
    machine.rolls (operation :: rest) =
      if (Moment.mk machine operation).roll?.isSome then
        ⟨machine, operation⟩ :: (machine.apply operation).machine.rolls rest
      else (machine.apply operation).machine.rolls rest :=
  List.filter_cons

variable {machine : Machine}

/-- A run draws as many bytes as it rolls. -/
theorem run_random (machine : Machine) (operations : List Operation) :
    (machine.run operations).random =
      machine.random.advance (machine.rolls operations).length := by
  induction operations generalizing machine with
  | nil => rfl
  | cons operation rest ih =>
    have first : (machine.apply operation).machine.random = _ :=
      Moment.after_random ⟨machine, operation⟩
    rw [run_cons, ih, first, rolls_cons]
    split
    · rw [RandomSource.advance_advance, List.length_cons, Nat.add_comm]
    · rfl

/-- Each roll finds the source with one byte drawn for each roll before it. -/
theorem rolls_random {operations : List Operation} {j : Nat} {roll : Moment}
    (found : (machine.rolls operations)[j]? = some roll) :
    roll.before.random = machine.random.advance j := by
  induction operations generalizing machine j with
  | nil => simp [rolls] at found
  | cons operation rest ih =>
    have first : (machine.apply operation).machine.random = _ :=
      Moment.after_random ⟨machine, operation⟩
    rw [rolls_cons] at found
    by_cases rolled : (Moment.mk machine operation).roll?.isSome
    · rw [if_pos rolled] at found first
      cases j with
      | zero =>
        cases found
        rfl
      | succ j =>
        rw [ih found, first, RandomSource.advance_advance, Nat.add_comm]
    · rw [if_neg rolled] at found first
      rw [ih found, first]

/-- Every byte of the source goes to one roll, in their order, over starting over, programs put in,
waits, faults and all else: the roll number `j` of a run gives its register what the mask leaves of
the byte number `j` and leaves the other registers alone, and at the end of the run as many bytes
are drawn as rolls were executed. -/
theorem rolls_take_bytes (rate : UInt32) (random : RandomSource) (operations : List Operation) :
    ∃ start rolls, start = powerOn rate random ∧ rolls = start.rolls operations ∧
      (start.run operations).random = random.advance rolls.length ∧
      ∀ j roll, rolls[j]? = some roll →
        ∃ x mask, roll.executed? = some (.random x mask) ∧
          roll.after.registers.get x = random.remaining j &&& mask ∧
          ∀ y : UInt8, y.toNat < 16 → y ≠ x →
            roll.after.registers.get y = roll.before.registers.get y := by
  refine ⟨_, _, rfl, rfl, run_random _ _, fun j roll found => ?_⟩
  have source : roll.before.random = random.advance j := rolls_random found
  obtain ⟨-, rolled⟩ := List.mem_filter.mp (List.mem_of_getElem? found)
  obtain ⟨⟨x, mask⟩, rolled⟩ := Option.isSome_iff_exists.mp rolled
  have executed := Moment.roll?_eq_some_iff.mp rolled
  obtain ⟨stepped, result⟩ := Moment.executed?_eq_some_iff.mp executed
  obtain ⟨small, registers⟩ := step_roll result
  have after : roll.after.registers =
      roll.before.registers.set x (random.remaining j &&& mask) := by
    rw [source] at registers
    rw [Moment.after, Moment.outcome, stepped]
    exact registers
  refine ⟨x, mask, executed, ?_, fun y inside other => ?_⟩
  · rw [after, Registers.get_set _ _ small small, if_pos rfl]
  · rw [after, Registers.get_set _ _ small inside, if_neg other]

/-- The second roll comes after the machine has started over, and still takes the second byte. -/
theorem rolls_over_reset :
    ∃ roll, ((powerOn 60 (.cyclic [0xAB, 0x3C])).rolls
        [.load [0xC0, 0xFF], .step, .reset, .load [0xC1, 0x0F], .step])[1]? = some roll ∧
      roll.after.registers.get 1 = 0x0C := by
  have second : (((powerOn 60 (.cyclic [0xAB, 0x3C])).rolls
      [.load [0xC0, 0xFF], .step, .reset, .load [0xC1, 0x0F], .step])[1]?).bind
      Moment.executed? = some (.random 1 0x0F) := by decide +kernel
  obtain ⟨roll, found, executed⟩ := Option.bind_eq_some_iff.mp second
  obtain ⟨start, rolls, begun, listed, _, takes⟩ := rolls_take_bytes 60 (.cyclic [0xAB, 0x3C])
    [.load [0xC0, 0xFF], .step, .reset, .load [0xC1, 0x0F], .step]
  rw [← begun, ← listed] at found
  rw [← begun, ← listed]
  obtain ⟨x, mask, same, byte, _⟩ := takes 1 roll found
  cases executed.symm.trans same
  exact ⟨roll, found, byte.trans (by decide)⟩

end Machine
end Chip8
