import Chip8.Proofs.Bounds

/-!
# The footprint of a cycle

Which instruction is behind each change that a cycle makes. A part of the machine changes only when
an instruction that writes it was executed, a register only when the instruction names it, and the
timers also when a tick is due. Keys and rate stay over every cycle, and a word that is no
instruction moves nothing but the program counter and the timers.
-/
namespace Chip8

def Instruction.Writes : Instruction → UInt8 → Prop
  | .loadByte x _, z | .addByte x _, z | .copy x _, z | .or x _, z | .and x _, z | .xor x _, z
  | .random x _, z | .loadDelay x, z => z = x
  | .add x _, z | .sub x _, z | .shiftRight x, z | .subReverse x _, z | .shiftLeft x, z =>
    z = x ∨ z = 0xF
  | .draw _ _ _, z => z = 0xF
  | .loadRegisters x, z => z ≤ x
  | _, _ => False

namespace Machine

/-- A cycle of the machine executes an instruction. -/
def Executes (machine : Machine) (instruction : Instruction) : Prop :=
  machine.step.result = .ok (.executed instruction)

/-- A cycle of the machine ends with a tick of the timers. -/
def TickDue (machine : Machine) : Prop :=
  machine.divider = 1 ∧ ∃ cycle, machine.step.result = .ok cycle

variable {machine : Machine} {instruction : Instruction} {effect : Effect}

/-! ## Instructions -/

/-- An instruction leaves the registers alone that it does not write. -/
theorem execute_reg (fits : instruction.Encodable) (done : machine.execute instruction = .ok effect)
    {z : UInt8} (hz : z.toNat < 16) (other : ¬ instruction.Writes z) :
    effect.machine.reg z = machine.reg z := by
  cases instruction with
  | loadByte x _ | addByte x _ | random x _ | loadDelay x =>
    cases done
    exact (reg_setReg _ _ fits hz).trans (if_neg other)
  | copy x _ | or x _ | and x _ | xor x _ =>
    cases done
    exact (reg_setReg _ _ fits.1 hz).trans (if_neg other)
  | add x _ | sub x _ | subReverse x _ =>
    cases done
    obtain ⟨first, last⟩ := not_or.mp other
    exact (reg_setRegFlag _ _ _ fits.1 hz).trans ((if_neg last).trans (if_neg first))
  | shiftRight x | shiftLeft x =>
    cases done
    obtain ⟨first, last⟩ := not_or.mp other
    exact (reg_setRegFlag _ _ _ fits hz).trans ((if_neg last).trans (if_neg first))
  | draw _ _ _ =>
    obtain ⟨_, _, done⟩ := bind_ok done
    cases done
    exact (Registers.get_setFlag _ _ hz).trans (if_neg other)
  | loadRegisters x =>
    obtain ⟨values, read, done⟩ := bind_ok done
    cases done
    obtain ⟨length, _⟩ := Memory.length_of_readRange read
    have place := Registers.val_place fits
    have beyond : values.length ≤ z.toNat := by
      have less : ¬ z.toNat ≤ x.toNat := mt UInt8.le_iff_toNat_le.mpr other
      omega
    refine (Registers.get_fill _ _ hz).trans ?_
    rw [List.getD_eq_getElem?_getD, List.getElem?_eq_none beyond]
    rfl
  | subReturn | call _ | storeDigits _ | storeRegisters _ =>
    obtain ⟨_, _, done⟩ := bind_ok done
    cases done
    rfl
  | _ =>
    cases done
    rfl

/-! ## Counting -/

/-- Counting a cycle changes no part but the timers, and these only by a tick. -/
theorem countCycle_same (pending : 1 ≤ machine.divider) {part : Part}
    (changed : ¬ part.Same machine.countCycle.1 machine) :
    (part = .delay ∨ part = .sound) ∧ machine.divider = 1 := by
  obtain ⟨delay, sound, divider, same⟩ := countCycle_eq machine
  have timer : part = .delay ∨ part = .sound := by
    rw [same] at changed
    cases part <;> first | exact absurd rfl changed | decide
  rcases Nat.eq_or_lt_of_le pending with due | early
  · exact ⟨timer, due.symm⟩
  · have later : ¬ machine.divider - 1 = 0 := by omega
    unfold countCycle at changed
    rw [if_neg later] at changed
    rcases timer with rfl | rfl <;> exact absurd rfl changed

/-- What an instruction has changed is a part that it writes, unless counting the cycle has. -/
theorem counted_same (done : machine.execute instruction = .ok effect)
    (pending : 1 ≤ machine.divider) {part : Part}
    (changed : ¬ part.Same (machine.moved effect).countCycle.1 machine) :
    instruction.part? = some part ∨
      (part = .delay ∨ part = .sound) ∧ machine.divider = 1 := by
  obtain ⟨_, divider, _, _⟩ := execute_frame done
  have same : (machine.moved effect).divider = machine.divider := divider
  by_cases written : instruction.part? = some part
  · exact .inl written
  · right
    have kept : part.Same effect.machine machine := execute_same done part written
    rw [← same]
    apply countCycle_same (same.symm ▸ pending)
    intro counted
    apply changed
    cases part <;> exact counted.trans kept

/-! ## Cycles -/

theorem same_refl (machine : Machine) (part : Part) : part.Same machine machine := by
  cases part <;> exact rfl

/-- A part that a cycle changes is written by the instruction that it executes, unless a tick has
changed it. -/
theorem step_part (pending : 1 ≤ machine.divider) {part : Part}
    (changed : ¬ part.Same machine.step.machine machine) :
    (∃ instruction, machine.Executes instruction ∧ instruction.part? = some part) ∨
      (part = .delay ∨ part = .sound) ∧ machine.TickDue := by
  have way := step_cases machine
  unfold Executes TickDue
  generalize machine.step = outcome at way changed ⊢
  cases way with
  | waits _ =>
    obtain ⟨timer, due⟩ := countCycle_same pending changed
    exact .inr ⟨timer, due, _, rfl⟩
  | unreadable _ _ | faults _ _ _ _ => exact absurd (same_refl machine part) changed
  | skips _ _ _ =>
    -- the program counter, which has moved, is no such part
    obtain ⟨beyond, same, changed⟩ : ∃ beyond : Machine, beyond.divider = machine.divider ∧
        ¬ part.Same beyond.countCycle.1 beyond :=
      ⟨{ machine with counter := machine.counter + 2 }, rfl, by cases part <;> exact changed⟩
    obtain ⟨timer, due⟩ := countCycle_same (same.symm ▸ pending) changed
    exact .inr ⟨timer, same ▸ due, _, rfl⟩
  | executes _ _ _ done =>
    rcases counted_same done pending changed with written | ⟨timer, due⟩
    · exact .inl ⟨_, rfl, written⟩
    · exact .inr ⟨timer, due, _, rfl⟩

/-- A register that a cycle changes is written by the instruction that it executes. -/
theorem step_writes {z : UInt8} (hz : z.toNat < 16)
    (changed : machine.step.machine.reg z ≠ machine.reg z) :
    ∃ instruction, machine.Executes instruction ∧ instruction.Writes z := by
  have counted : ∀ after : Machine, after.countCycle.1.reg z = after.reg z := fun after =>
    congrArg (Registers.get · z) (countCycle_registers after)
  have way := step_cases machine
  unfold Executes
  generalize machine.step = outcome at way changed ⊢
  cases way with
  | waits _ => exact absurd (counted machine) changed
  | unreadable _ _ | faults _ _ _ _ => exact absurd rfl changed
  | skips _ _ _ => exact absurd (counted _) changed
  | executes _ _ decoded done =>
    refine ⟨_, rfl, Classical.byContradiction fun other => ?_⟩
    have kept := execute_reg (Instruction.ofWord?_encodable decoded) done hz other
    exact changed ((counted _).trans kept)

/-- A cycle does not touch the keys. -/
theorem step_keys (machine : Machine) : machine.step.machine.keys = machine.keys := by
  have way := step_cases machine
  generalize machine.step = outcome at way ⊢
  cases way with
  | waits _ | skips _ _ _ => rw [counted, countCycle_keys]
  | unreadable _ _ | faults _ _ _ _ => rfl
  | executes _ _ _ done =>
    rw [counted, countCycle_keys]
    exact (execute_frame done).2.2.1

/-- A word that is no instruction moves the program counter past itself, and is counted. -/
theorem step_decodeFault {word : UInt16} (skipped : machine.step.result = .ok (.decodeFault word)) :
    machine.step.machine.counter.toNat = machine.counter.toNat + 2 ∧
      ∃ counter delay sound divider, machine.step.machine = { machine with
        counter := counter, delay := delay, sound := sound, divider := divider } := by
  have way := step_cases machine
  generalize machine.step = outcome at way skipped ⊢
  cases way with
  | skips _ read _ =>
    have readable := readable_of_readWord read
    obtain ⟨delay, sound, divider, same⟩ :=
      countCycle_eq { machine with counter := machine.counter + 2 }
    refine ⟨?_, machine.counter + 2, delay, sound, divider, same⟩
    rw [counted, countCycle_counter]
    exact (toNat_follow readable).1
  | waits _ | unreadable _ _ | faults _ _ _ _ | executes _ _ _ _ => cases skipped

/-- What a cycle of a reachable machine changes, whatever comes of it. A part is changed only by an
instruction that writes it, or is a timer and changed by a tick that is due; a register is changed
only by an instruction that writes it; keys and rate are not changed at all; and where the word is
no instruction, the program counter moves on by two and only the timers and their divider may have
changed beside it. -/
theorem step_footprint (reachable : Reachable machine) :
    ∃ after, machine.step.machine = after ∧
      (∀ part : Part, ¬ part.Same after machine →
        (∃ instruction, machine.Executes instruction ∧ instruction.part? = some part) ∨
          (part = .delay ∨ part = .sound) ∧ machine.TickDue) ∧
      (∀ z : UInt8, z.toNat < 16 → after.reg z ≠ machine.reg z →
        ∃ instruction, machine.Executes instruction ∧ instruction.Writes z) ∧
      after.keys = machine.keys ∧ after.rate = machine.rate ∧
      ∀ word, machine.step.result = .ok (.decodeFault word) →
        after.counter.toNat = machine.counter.toNat + 2 ∧
          ∃ counter delay sound divider, after = { machine with
            counter := counter, delay := delay, sound := sound, divider := divider } := by
  refine ⟨_, rfl, fun part changed => ?_, fun z hz changed => ?_, ?_, ?_, fun word skipped => ?_⟩
  · exact step_part reachable.bounded.divider_pos changed
  · exact step_writes hz changed
  · exact step_keys machine
  · exact apply_rate machine .step
  · exact step_decodeFault skipped

/-- A machine whose program loads the first three registers. -/
def loadingThree : Machine :=
  ((powerOn 500 (.constant 0)).load [0xF2, 0x65]).machine

/-- The third register is loaded, from the font, and the fourth one stays, as does memory. -/
theorem loadingThree_spares : Reachable loadingThree ∧
    loadingThree.step.machine.reg 2 ≠ loadingThree.reg 2 ∧
    loadingThree.step.machine.reg 3 = loadingThree.reg 3 ∧
    loadingThree.step.machine.memory = loadingThree.memory := by
  have reachable : Reachable loadingThree := .next (.load [0xF2, 0x65]) (.start 500 (.constant 0))
  have loads : loadingThree.Executes (.loadRegisters 2) := by
    apply ok_of_toOption
    decide +kernel
  have only : ∀ {instruction}, loadingThree.Executes instruction →
      instruction = .loadRegisters 2 := fun executed => by
    cases loads.symm.trans executed
    rfl
  obtain ⟨_, rfl, parts, registers, _⟩ := step_footprint reachable
  refine ⟨reachable, by decide +kernel, ?_, ?_⟩
  · refine Classical.byContradiction fun changed => ?_
    obtain ⟨instruction, executed, writes⟩ := registers 3 (by decide) changed
    cases only executed
    exact absurd writes (by decide : ¬ (3 : UInt8) ≤ 2)
  · refine Classical.byContradiction fun changed => ?_
    rcases parts .memory changed with ⟨instruction, executed, writes⟩ | ⟨timer, _⟩
    · cases only executed
      cases writes
    · exact absurd timer (by decide)

end Machine
end Chip8
