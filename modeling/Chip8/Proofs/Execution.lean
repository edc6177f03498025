import Chip8.Machine.Execute
import Chip8.Proofs.CallStack
import Chip8.Proofs.Decoding
import Chip8.Proofs.Memory

/-!
# What an instruction changes

Beside the registers an instruction writes at most one part of the machine, and it never touches the
program counter, the timer divider, the keys or the rate. Only calls, returns and instructions that
move a block of memory can fault, under conditions on the stack and the index register alone.
-/
namespace Chip8

/-- The parts of a machine that some instruction writes, beside the registers. -/
inductive Part where
  | memory | stack | screen | index | keyWait | random | delay | sound
  deriving DecidableEq, Repr

def Part.Same (a b : Machine) : Part → Prop
  | .memory => a.memory = b.memory
  | .stack => a.stack = b.stack
  | .screen => a.screen = b.screen
  | .index => a.index = b.index
  | .keyWait => a.keyWait = b.keyWait
  | .random => a.random = b.random
  | .delay => a.delay = b.delay
  | .sound => a.sound = b.sound

namespace Instruction

def part? : Instruction → Option Part
  | .clearScreen => some .screen
  | .draw _ _ _ => some .screen
  | .subReturn => some .stack
  | .call _ => some .stack
  | .loadIndex _ => some .index
  | .addIndex _ => some .index
  | .loadGlyph _ => some .index
  | .storeDigits _ => some .memory
  | .storeRegisters _ => some .memory
  | .waitForKey _ => some .keyWait
  | .random _ _ => some .random
  | .setDelay _ => some .delay
  | .setSound _ => some .sound
  | _ => none

/-- The bytes from the index register on that an instruction reads or writes. -/
def blockLength : Instruction → Nat
  | .draw _ _ rows => rows.toNat
  | .storeDigits _ => 3
  | .storeRegisters x => Registers.place x + 1
  | .loadRegisters x => Registers.place x + 1
  | _ => 0

/-- The instructions that write to the screen are those that write the part. -/
theorem draws_iff (i : Instruction) : i.draws = true ↔ i.part? = some .screen := by
  constructor
  · intro h
    cases i <;> first | rfl | cases h
  · intro h
    cases i <;> first | rfl | cases h

end Instruction

/-- A register within range has its number as its place. -/
theorem Registers.val_place {x : UInt8} (hx : x.toNat < 16) : (place x).val = x.toNat :=
  Nat.mod_eq_of_lt hx

theorem Registers.length_upTo (registers : Registers) (x : UInt8) :
    (registers.upTo x).length = place x + 1 := by
  have inside : (place x).val + 1 ≤ 16 := (place x).isLt
  rw [upTo, List.length_take, toList, Vector.length_toList]
  exact Nat.min_eq_left inside

/-- The first registers, one by one. -/
theorem Registers.getElem?_upTo (registers : Registers) {x y : UInt8} (hx : x.toNat < 16)
    (first : y.toNat ≤ x.toNat) : (registers.upTo x)[y.toNat]? = some (registers.get y) := by
  have small : y.toNat < 16 := Nat.lt_of_le_of_lt first hx
  have counted : y.toNat < (place x).val + 1 := val_place hx ▸ Nat.lt_succ_of_le first
  rw [upTo, List.getElem?_take_of_lt counted, toList, Vector.getElem?_toList, ← val_place small]
  exact Vector.getElem?_eq_getElem (place y).isLt

/-- A register that was written holds the value, and the other ones what they held. -/
theorem Registers.get_set (registers : Registers) {x y : UInt8} (value : UInt8)
    (hx : x.toNat < 16) (hy : y.toNat < 16) :
    (registers.set x value).get y = if y = x then value else registers.get y := by
  have places : (place x).val = (place y).val ↔ y = x := by
    rw [val_place hx, val_place hy, UInt8.toNat_inj]
    exact eq_comm
  show (registers.cells.set (place x) value)[(place y).val] = _
  rw [Vector.getElem_set]
  simp only [places]
  rfl

/-- A register after the flag was written. -/
theorem Registers.get_setFlag (registers : Registers) (flag : Bool) {y : UInt8}
    (hy : y.toNat < 16) :
    (registers.setFlag flag).get y = if y = 0xF then (if flag then 1 else 0)
      else registers.get y :=
  get_set registers _ (by decide) hy

/-- The first registers after they were filled hold the values, the other ones what they held. -/
theorem Registers.get_fill (registers : Registers) (values : List UInt8) {y : UInt8}
    (hy : y.toNat < 16) :
    (registers.fill values).get y = values.getD y.toNat (registers.get y) := by
  show (Vector.ofFn _)[(place y).val] = _
  rw [Vector.getElem_ofFn]
  exact congrArg (fun k => values.getD k (registers.get y)) (val_place hy)

namespace Machine

variable {machine : Machine} {instruction : Instruction} {effect : Effect}

theorem reg_setReg (machine : Machine) {x y : UInt8} (value : UInt8) (hx : x.toNat < 16)
    (hy : y.toNat < 16) :
    (machine.setReg x value).reg y = if y = x then value else machine.reg y :=
  Registers.get_set _ value hx hy

theorem reg_setRegFlag (machine : Machine) {x y : UInt8} (value : UInt8) (flag : Bool)
    (hx : x.toNat < 16) (hy : y.toNat < 16) :
    (machine.setRegFlag x value flag).reg y =
      if y = 0xF then (if flag then 1 else 0) else if y = x then value else machine.reg y := by
  rw [← reg_setReg machine value hx hy]
  exact Registers.get_setFlag _ flag hy

/-- A success of two steps is a success of each. -/
theorem bind_ok {α β : Type} {first : Except Fault α} {next : α → Except Fault β} {value : β}
    (h : (first >>= next) = .ok value) : ∃ x, first = .ok x ∧ next x = .ok value := by
  cases first with
  | error fault => cases h
  | ok x => exact ⟨x, rfl, h⟩

theorem ok_of_toOption {α β : Type} {result : Except α β} {value : β}
    (found : result.toOption = some value) : result = .ok value := by
  cases result with
  | error _ => cases found
  | ok _ => exact congrArg Except.ok (Option.some.inj found)

/-- An instruction leaves the parts alone that it does not write. -/
theorem execute_same (h : machine.execute instruction = .ok effect) (part : Part)
    (other : instruction.part? ≠ some part) : part.Same effect.machine machine := by
  cases instruction with
  | subReturn | call _ | draw _ _ _ | storeDigits _ | storeRegisters _ | loadRegisters _ =>
    obtain ⟨value, _, h⟩ := bind_ok h
    cases h
    cases part <;> first | exact absurd rfl other | simp [Part.Same, proceed, go]
  | _ =>
    cases h
    cases part <;> first | exact absurd rfl other | exact rfl

/-- No instruction touches these. -/
theorem execute_frame (h : machine.execute instruction = .ok effect) :
    effect.machine.counter = machine.counter ∧ effect.machine.divider = machine.divider ∧
      effect.machine.keys = machine.keys ∧ effect.machine.rate = machine.rate := by
  cases instruction with
  | subReturn | call _ | draw _ _ _ | storeDigits _ | storeRegisters _ | loadRegisters _ =>
    obtain ⟨value, _, h⟩ := bind_ok h
    cases h
    simp [proceed, go]
  | _ =>
    cases h
    exact ⟨rfl, rfl, rfl, rfl⟩

/-- What an instruction reports by itself. -/
theorem execute_events (h : machine.execute instruction = .ok effect) :
    ∀ event ∈ effect.events, event = .screenCleared ∨ (∃ x, event = .keyAwaited x) ∨
      ∃ x value, event = .glyphMissing x value := by
  intro event member
  cases instruction with
  | subReturn | call _ | draw _ _ _ | storeDigits _ | storeRegisters _ | loadRegisters _ =>
    obtain ⟨value, _, h⟩ := bind_ok h
    cases h
    cases member
  | clearScreen =>
    cases h
    exact .inl (List.mem_singleton.mp member)
  | waitForKey x =>
    cases h
    exact .inr (.inl ⟨x, List.mem_singleton.mp member⟩)
  | loadGlyph x =>
    cases h
    dsimp only at member
    split at member
    · exact .inr (.inr ⟨x, _, List.mem_singleton.mp member⟩)
    · cases member
  | _ =>
    cases h
    cases member

/-- Two steps fail as the first does when the second cannot fail. -/
theorem bind_error_iff {α β : Type} {first : Except Fault α} {next : α → Except Fault β}
    {fault : Fault} (safe : ∀ x, ∃ y, next x = .ok y) :
    (first >>= next) = .error fault ↔ first = .error fault := by
  cases first with
  | error other => simp [bind, Except.bind]
  | ok x =>
    obtain ⟨y, h⟩ := safe x
    simp [bind, Except.bind, h]

theorem sprite_error_iff {rows : UInt8} {fault : Fault} :
    machine.sprite rows = .error fault ↔ 0 < rows.toNat ∧
      Memory.size < machine.index.toNat + rows.toNat ∧
      fault = Memory.rangeFault machine.index.toNat rows.toNat := by
  unfold sprite
  split
  case isTrue zero => simp [zero]
  case isFalse some =>
    have positive : 0 < rows.toNat := Nat.pos_of_ne_zero fun zero =>
      some (UInt8.toNat_inj.mp zero)
    simp [Memory.readRange_error_iff, positive]

/-- A block that reaches past the end of memory names its last address. -/
theorem rangeFault_eq {start length : Nat} (some : 0 < length) :
    Memory.rangeFault start length = .addressOutOfBounds (start + length - 1) := by
  simp only [Memory.rangeFault]
  congr 1
  omega

/-- The condition under which an instruction faults, and the fault. -/
theorem execute_error_iff {fault : Fault} :
    machine.execute instruction = .error fault ↔
      instruction = .subReturn ∧ machine.stack.depth = 0 ∧
        fault = .stackUnderflow machine.counter ∨
      (∃ target, instruction = .call target) ∧ machine.stack.depth = 16 ∧
        fault = .stackOverflow machine.counter ∨
      0 < instruction.blockLength ∧
        Memory.size < machine.index.toNat + instruction.blockLength ∧
        fault = .addressOutOfBounds (machine.index.toNat + instruction.blockLength - 1) := by
  cases instruction with
  | subReturn =>
    rw [execute, bind_error_iff, CallStack.pop_error_iff]
    · simp [Instruction.blockLength]
    · exact fun _ => ⟨_, rfl⟩
  | call target =>
    rw [execute, bind_error_iff, CallStack.push_error_iff]
    · simp [Instruction.blockLength]
    · exact fun _ => ⟨_, rfl⟩
  | draw x y rows =>
    rw [execute, bind_error_iff, sprite_error_iff]
    · simp +contextual [Instruction.blockLength, rangeFault_eq]
    · exact fun _ => ⟨_, rfl⟩
  | storeDigits x =>
    rw [execute, bind_error_iff, Memory.writeRange_error_iff]
    · simp [Instruction.blockLength, decimalDigits, rangeFault_eq]
    · exact fun _ => ⟨_, rfl⟩
  | storeRegisters x =>
    rw [execute, bind_error_iff, Memory.writeRange_error_iff]
    · simp [Instruction.blockLength, rangeFault_eq, Registers.length_upTo]
    · exact fun _ => ⟨_, rfl⟩
  | loadRegisters x =>
    rw [execute, bind_error_iff, Memory.readRange_error_iff]
    · simp [Instruction.blockLength, rangeFault_eq]
    · exact fun _ => ⟨_, rfl⟩
  | _ => simp [execute, Instruction.blockLength]

end Machine
end Chip8
