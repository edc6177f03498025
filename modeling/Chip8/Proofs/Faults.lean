import Chip8.Proofs.Bare.Agreement

/-!
# Faults of a cycle

When exactly a cycle faults, in terms of the program counter, the word there, the stack and the
index register; and that a cycle that faults has changed nothing and called no device, also where
its changes are made one after another.
-/
namespace Chip8

/-- A word that moves as many bytes between memory and the rest of the machine: `DXYN` with some
rows, `FX33`, and `FX55` and `FX65`. -/
inductive MovesBlock (word : UInt16) : Nat → Prop where
  | sprite (kind : word.toNat / 0x1000 = 0xD) (some : 1 ≤ word.toNat % 0x10) :
    MovesBlock word (word.toNat % 0x10)
  | digits (kind : word.toNat / 0x1000 = 0xF) (last : word.toNat % 0x100 = 0x33) :
    MovesBlock word 3
  | registers (kind : word.toNat / 0x1000 = 0xF)
    (last : word.toNat % 0x100 = 0x55 ∨ word.toNat % 0x100 = 0x65) :
    MovesBlock word (word.toNat / 0x100 % 0x10 + 1)

/-- The conditions under which a cycle that reads an instruction faults. -/
inductive Machine.CycleFault (machine : Machine) : Fault → Prop where
  | unreadable (beyond : 0xFFE < machine.counter.toNat) :
    CycleFault machine (.addressOutOfBounds (max machine.counter.toNat 0x1000))
  | underflow {word : UInt16} (held : machine.memory.HoldsWord machine.counter.toNat word)
    (returns : word.toNat = 0x00EE) (none : machine.stack.depth = 0) :
    CycleFault machine (.stackUnderflow machine.counter)
  | overflow {word : UInt16} (held : machine.memory.HoldsWord machine.counter.toNat word)
    (calls : word.toNat / 0x1000 = 2) (full : machine.stack.depth = 16) :
    CycleFault machine (.stackOverflow machine.counter)
  | outside {word : UInt16} {length : Nat}
    (held : machine.memory.HoldsWord machine.counter.toNat word) (moves : MovesBlock word length)
    (beyond : 4096 < machine.index.toNat + length) :
    CycleFault machine (.addressOutOfBounds (machine.index.toNat + length - 1))

/-- No device hears of an event: neither the display nor the beeper nor diagnostics. -/
def Event.Unheard (event : Event) : Prop :=
  event.isDisplayReset = false ∧ event.shown? = none ∧ event.isBeep = false ∧
    event.message? = none

/-- The words that move a block are those of the instructions that do. -/
theorem movesBlock_iff {word : UInt16} {length : Nat} :
    MovesBlock word length ↔
      ∃ i, Instruction.ofWord? word = some i ∧ i.blockLength = length ∧ 0 < length := by
  open Instruction in
  constructor
  · intro moves
    cases moves with
    | sprite kind some =>
      have kind : (Opcode.ofWord word).kind.toNat = 0xD := by simp [kind]
      refine ⟨.draw (Opcode.ofWord word).x (Opcode.ofWord word).y (Opcode.ofWord word).n, ?_, ?_,
        some⟩
      · simp [ofWord?, ofOpcode?, kind]
      · simp [blockLength]
    | digits kind last =>
      have kind : (Opcode.ofWord word).kind.toNat = 0xF := by simp [kind]
      have last : (Opcode.ofWord word).nn.toNat = 0x33 := by simp [last]
      refine ⟨.storeDigits (Opcode.ofWord word).x, ?_, rfl, by decide⟩
      simp [ofWord?, ofOpcode?, kind, transfer?, last]
    | registers kind last =>
      have kind : (Opcode.ofWord word).kind.toNat = 0xF := by simp [kind]
      have place : (Registers.place (Opcode.ofWord word).x).val = word.toNat / 0x100 % 0x10 := by
        simp [Registers.place]
      cases last with
      | inl store =>
        have last : (Opcode.ofWord word).nn.toNat = 0x55 := by simp [store]
        refine ⟨.storeRegisters (Opcode.ofWord word).x, ?_, ?_, Nat.succ_pos _⟩
        · simp [ofWord?, ofOpcode?, kind, transfer?, last]
        · rw [blockLength, place]
      | inr load =>
        have last : (Opcode.ofWord word).nn.toNat = 0x65 := by simp [load]
        refine ⟨.loadRegisters (Opcode.ofWord word).x, ?_, ?_, Nat.succ_pos _⟩
        · simp [ofWord?, ofOpcode?, kind, transfer?, last]
        · rw [blockLength, place]
  · rintro ⟨i, decoded, rfl, some⟩
    unfold ofWord? ofOpcode? control? arithmetic? keySkip? transfer? at decoded
    split at decoded <;> (try split at decoded) <;> cases decoded <;>
      simp [blockLength, Registers.place] at *
    · exact .sprite ‹_› some
    · exact .digits ‹_› ‹_›
    · exact .registers ‹_› (.inl ‹_›)
    · exact .registers ‹_› (.inr ‹_›)

namespace Machine

variable {machine : Machine} {fault : Fault}

/-- Where memory holds a word at the program counter, the conditions are those of the instruction
that the word stands for. -/
theorem cycleFault_iff {word : UInt16}
    (held : machine.memory.HoldsWord machine.counter.toNat word) :
    machine.CycleFault fault ↔ ∃ instruction, Instruction.ofWord? word = some instruction ∧
      machine.execute instruction = .error fault := by
  constructor
  · intro conditions
    cases conditions with
    | unreadable beyond =>
      obtain ⟨inside, _⟩ := held
      have size : Memory.size = 0x1000 := rfl
      omega
    | underflow same returns none =>
      cases same.unique held
      refine ⟨_, Instruction.ofWord?_subReturn_iff.mpr returns, ?_⟩
      exact execute_error_iff.mpr (.inl ⟨rfl, none, rfl⟩)
    | overflow same calls full =>
      cases same.unique held
      obtain ⟨target, called⟩ := Instruction.ofWord?_call_iff.mpr calls
      exact ⟨_, called, execute_error_iff.mpr (.inr (.inl ⟨⟨target, rfl⟩, full, rfl⟩))⟩
    | outside same moves beyond =>
      cases same.unique held
      obtain ⟨_, moved, rfl, some⟩ := movesBlock_iff.mp moves
      exact ⟨_, moved, execute_error_iff.mpr (.inr (.inr ⟨some, beyond, rfl⟩))⟩
  · rintro ⟨instruction, decoded, failed⟩
    rcases execute_error_iff.mp failed with
      ⟨rfl, none, rfl⟩ | ⟨⟨target, rfl⟩, full, rfl⟩ | ⟨some, beyond, rfl⟩
    · exact .underflow held (Instruction.ofWord?_subReturn_iff.mp decoded) none
    · exact .overflow held (Instruction.ofWord?_call_iff.mp ⟨target, decoded⟩) full
    · exact .outside held (movesBlock_iff.mpr ⟨instruction, decoded, rfl, some⟩) beyond

/-- A word that was not read lies past the end of memory, and that is the only fault then. -/
theorem readWord_fault_iff {unread : Fault}
    (failed : machine.memory.readWord machine.counter.toNat = .error unread) :
    unread = fault ↔ machine.CycleFault fault := by
  have size : Memory.size = 0x1000 := rfl
  have beyond : Memory.size ≤ machine.counter.toNat + 1 := by
    apply Nat.le_of_not_lt
    intro inside
    cases failed.symm.trans (Memory.readWord_ok inside)
  cases failed.symm.trans (Memory.readWord_error beyond)
  constructor
  · rintro rfl
    exact .unreadable (by omega)
  · intro conditions
    cases conditions with
    | unreadable _ => rfl
    | underflow held _ _ | overflow held _ _ | outside held _ _ =>
      obtain ⟨inside, _⟩ := held
      omega

/-- A cycle faults exactly under the conditions, and with the fault that they name. -/
theorem step_error_iff :
    machine.step.result = .error fault ↔ machine.keyWait = none ∧ machine.CycleFault fault := by
  have way := step_cases machine
  generalize machine.step = outcome at way ⊢
  cases way with
  | waits wait => simp [counted, wait]
  | unreadable free unread => simp [free, readWord_fault_iff unread]
  | skips free read unknown =>
    rw [cycleFault_iff (Memory.readWord_eq_ok_iff.mp read)]
    simp [counted, unknown]
  | faults free read decoded failed =>
    rw [cycleFault_iff (Memory.readWord_eq_ok_iff.mp read)]
    simp [free, decoded, failed]
  | executes free read decoded done =>
    rw [cycleFault_iff (Memory.readWord_eq_ok_iff.mp read)]
    simp [counted, decoded, done]

/-- A cycle that faults leaves the machine as it was and is at most logged. -/
theorem step_error_frame (failed : machine.step.result = .error fault) :
    machine.step.machine = machine ∧ ∀ event ∈ machine.step.events, event.Unheard := by
  have way := step_cases machine
  generalize machine.step = outcome at way failed ⊢
  cases way with
  | waits wait => cases failed
  | unreadable free unread => exact ⟨rfl, fun _ member => nomatch member⟩
  | skips free read unknown => cases failed
  | faults free read decoded stopped =>
    refine ⟨rfl, fun event member => ?_⟩
    cases List.mem_singleton.mp member
    exact ⟨rfl, rfl, rfl, rfl⟩
  | executes free read decoded done => cases failed

/-- When a cycle of a reachable machine faults, and with which fault; and that nothing has changed
then and no device was called, even where the changes are made in place one after another. -/
theorem step_fault_exact (reachable : Reachable machine) :
    (∀ fault, machine.step.result = .error fault ↔
      machine.keyWait = none ∧ machine.CycleFault fault) ∧
    ∀ fault, machine.step.result = .error fault →
      machine.step.machine = machine ∧ (∀ event ∈ machine.step.events, event.Unheard) ∧
      ∀ told, Bare.answer Bare.step (Bare.ofMachine machine) told =
        some (.error fault, Bare.ofMachine machine, told ++ machine.step.events) := by
  refine ⟨fun fault => step_error_iff, fun fault failed => ?_⟩
  obtain ⟨same, unheard⟩ := step_error_frame failed
  refine ⟨same, unheard, fun told => ?_⟩
  rw [Bare.answer_step told reachable.bounded, Bare.reported, failed, same]

/-- A machine whose program is a return and nothing else. -/
def loneReturn : Machine :=
  ((powerOn 500 (.constant 0)).load [0x00, 0xEE]).machine

theorem loneReturn_faults : Reachable loneReturn ∧
    loneReturn.step.result = .error (.stackUnderflow 0x200) ∧
    loneReturn.step.machine = loneReturn := by
  have reachable : Reachable loneReturn := .next (.load [0x00, 0xEE]) (.start 500 (.constant 0))
  have held : loneReturn.memory.HoldsWord 0x200 0x00EE := by
    refine ⟨by decide, ?_⟩
    decide +kernel
  have failed := ((step_fault_exact reachable).1 _).mpr ⟨rfl, .underflow held rfl rfl⟩
  exact ⟨reachable, failed, ((step_fault_exact reachable).2 _ failed).1⟩

end Machine
end Chip8
