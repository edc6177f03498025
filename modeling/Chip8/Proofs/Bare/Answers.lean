import Chip8.Proofs.Bare.Program
import Chip8.Proofs.Bounds

/-!
# Answers of the bare machine
-/
namespace Chip8.Bare

section Computations

variable {α β : Type} (bare : Bare) (events : List Event)

@[simp] theorem answer_pure (value : α) :
    answer (pure value) bare events = some (.ok value, bare, events) := rfl

@[simp] theorem answer_throw (fault : Fault) :
    answer (throw fault : Work α) bare events = some (.error fault, bare, events) := rfl

@[simp] theorem answer_liftM_some (value : α) :
    answer (liftM (some value) : Work α) bare events = some (.ok value, bare, events) := rfl

@[simp] theorem answer_liftM_none :
    answer (liftM (none : Option α) : Work α) bare events = none := rfl

@[simp] theorem answer_inspect (view : Bare → α) :
    answer (inspect view) bare events = some (.ok (view bare), bare, events) := rfl

@[simp] theorem answer_change (update : Bare → Bare) :
    answer (change update) bare events = some (.ok (), update bare, events) := rfl

@[simp] theorem answer_tell (event : Event) :
    answer (tell event) bare events = some (.ok (), bare, events ++ [event]) := rfl

/-- What follows a computation starts from what the computation left behind. -/
@[simp] theorem answer_bind (work : Work α) (next : α → Work β) :
    answer (work >>= next) bare events =
      match answer work bare events with
      | none => none
      | some (.error fault, after, told) => some (.error fault, after, told)
      | some (.ok value, after, told) => answer (next value) after told := by
  simp only [answer, ExceptT.run_bind, StateT.run_bind]
  cases h : StateT.run (ExceptT.run work) (bare, events) with
  | none => simp
  | some left =>
    obtain ⟨result, after, told⟩ := left
    cases result <;> simp

@[simp] theorem answer_map (work : Work α) (function : α → β) :
    answer (function <$> work) bare events =
      match answer work bare events with
      | none => none
      | some (.error fault, after, told) => some (.error fault, after, told)
      | some (.ok value, after, told) => some (.ok (function value), after, told) := by
  rw [map_eq_pure_bind, answer_bind]
  simp only [answer_pure]

end Computations

/-! ## Numbers -/

theorem byte?_eq {n : Nat} (small : n < 0x100) : byte? n = some n.toUInt8 := if_pos small

theorem word?_eq {n : Nat} (small : n < 0x10000) : word? n = some n.toUInt16 := if_pos small

theorem size?_eq {n : Nat} (small : n < 0x10000000000000000) : size? n = some n := if_pos small

theorem size?_eq_none {n : Nat} (large : 0x10000000000000000 ≤ n) : size? n = none :=
  if_neg (Nat.not_lt.mpr large)

theorem mask?_eq {bit : Nat} (small : bit < 16) : mask? bit = some (1 <<< bit.toUInt16) :=
  if_pos small

theorem difference?_eq {a b : Nat} (le : b ≤ a) : difference? a b = some (a - b) := if_pos le

/-! ## Parts of the machine -/

section Parts

variable (machine : Machine) (events : List Event)

@[simp] theorem ofMachine_rate : (ofMachine machine).rate = machine.rate := rfl
@[simp] theorem ofMachine_memory : (ofMachine machine).memory = machine.memory.bytes := rfl
@[simp] theorem ofMachine_registers :
    (ofMachine machine).registers = machine.registers.cells := rfl
@[simp] theorem ofMachine_index : (ofMachine machine).index = machine.index := rfl
@[simp] theorem ofMachine_counter : (ofMachine machine).counter = machine.counter := rfl
@[simp] theorem ofMachine_slots : (ofMachine machine).slots = machine.stack.slots := rfl
@[simp] theorem ofMachine_delay : (ofMachine machine).delay = machine.delay := rfl
@[simp] theorem ofMachine_sound : (ofMachine machine).sound = machine.sound := rfl
@[simp] theorem ofMachine_divider :
    (ofMachine machine).divider = machine.divider.toUInt32 := rfl
@[simp] theorem ofMachine_cells :
    (ofMachine machine).cells = machine.screen.cells.map cellByte := rfl
@[simp] theorem ofMachine_keys : (ofMachine machine).keys = machine.keys.bits := rfl
@[simp] theorem ofMachine_keyWait : (ofMachine machine).keyWait = machine.keyWait := rfl

@[simp] theorem answer_setMemory (memory : Memory) :
    answer (setMemory memory.bytes) (ofMachine machine) events =
      some (.ok (), ofMachine { machine with memory := memory }, events) := rfl

@[simp] theorem answer_setRegisters (registers : Registers) :
    answer (setRegisters registers.cells) (ofMachine machine) events =
      some (.ok (), ofMachine { machine with registers := registers }, events) := rfl

@[simp] theorem answer_setIndex (index : UInt16) :
    answer (setIndex index) (ofMachine machine) events =
      some (.ok (), ofMachine { machine with index := index }, events) := rfl

@[simp] theorem answer_setCounter (counter : UInt16) :
    answer (setCounter counter) (ofMachine machine) events =
      some (.ok (), ofMachine { machine with counter := counter }, events) := rfl

@[simp] theorem answer_setDelay (delay : UInt8) :
    answer (setDelay delay) (ofMachine machine) events =
      some (.ok (), ofMachine { machine with delay := delay }, events) := rfl

@[simp] theorem answer_setSound (sound : UInt8) :
    answer (setSound sound) (ofMachine machine) events =
      some (.ok (), ofMachine { machine with sound := sound }, events) := rfl

@[simp] theorem answer_setDivider (divider : Nat) :
    answer (setDivider divider.toUInt32) (ofMachine machine) events =
      some (.ok (), ofMachine { machine with divider := divider }, events) := rfl

@[simp] theorem answer_setCells (screen : Screen) :
    answer (setCells (screen.cells.map cellByte)) (ofMachine machine) events =
      some (.ok (), ofMachine { machine with screen := screen }, events) := rfl

@[simp] theorem answer_setKeys (keys : Keypad) :
    answer (setKeys keys.bits) (ofMachine machine) events =
      some (.ok (), ofMachine { machine with keys := keys }, events) := rfl

@[simp] theorem answer_setKeyWait (keyWait : Option UInt8) :
    answer (setKeyWait keyWait) (ofMachine machine) events =
      some (.ok (), ofMachine { machine with keyWait := keyWait }, events) := rfl

theorem answer_moveTo {target : Nat} (small : target < 0x10000) :
    answer (moveTo target) (ofMachine machine) events =
      some (.ok (), ofMachine { machine with counter := target.toUInt16 }, events) := by
  simp [moveTo, word?_eq small]

@[simp] theorem answer_nextByte :
    answer nextByte (ofMachine machine) events =
      some (.ok machine.random.draw.1,
        ofMachine { machine with random := machine.random.draw.2 }, events) := rfl

/-! ## Registers -/

theorem answer_readRegister {x : UInt8} (small : x.toNat < 16) :
    answer (readRegister x) (ofMachine machine) events =
      some (.ok (machine.reg x), ofMachine machine, events) := by
  have found : machine.registers.cells[x.toNat]? = some (machine.reg x) := by
    simp [Machine.reg, Registers.get, Registers.place, Vector.get, small, Nat.mod_eq_of_lt]
  simp [readRegister, found]

theorem answer_writeRegister {x : UInt8} (small : x.toNat < 16) (value : UInt8) :
    answer (writeRegister x value) (ofMachine machine) events =
      some (.ok (), ofMachine (machine.setReg x value), events) := by
  have replaced : replace? machine.registers.cells x.toNat value =
      some (machine.setReg x value).registers.cells := by
    simp [replace?, Machine.setReg, Registers.set, Registers.place, small, Nat.mod_eq_of_lt]
  simp only [writeRegister, answer_bind, answer_inspect, ofMachine_registers, replaced,
    answer_liftM_some, answer_setRegisters]
  rfl

/-! ## Stack -/

@[simp] theorem toNat_pointer : (ofMachine machine).pointer.toNat = machine.stack.depth := by
  have bound := machine.stack.depth_le
  rw [ofMachine, Nat.toUInt8_eq, UInt8.toNat_ofNat']
  omega

@[simp] theorem pointer_eq_zero : (ofMachine machine).pointer = 0 ↔ machine.stack.depth = 0 := by
  rw [← UInt8.toNat_inj, toNat_pointer]
  exact Iff.rfl

@[simp] theorem answer_setSlots (slots : Vector UInt16 16) :
    answer (setSlots slots) (ofMachine machine) events =
      some (.ok (), ofMachine { machine with stack := { machine.stack with slots := slots } },
        events) := rfl

@[simp] theorem answer_setPointer (depth : Nat) (bound : depth ≤ 16) :
    answer (setPointer depth.toUInt8) (ofMachine machine) events =
      some (.ok (), ofMachine { machine with
        stack := { slots := machine.stack.slots, depth := depth, depth_le := bound } },
        events) := rfl

theorem answer_push (value caller : UInt16) :
    answer (push value caller) (ofMachine machine) events =
      match machine.stack.push value caller with
      | .ok stack => some (.ok (), ofMachine { machine with stack := stack }, events)
      | .error fault => some (.error fault, ofMachine machine, events) := by
  by_cases room : machine.stack.depth < 16
  · have above : machine.stack.depth + 1 < 0x100 := by omega
    have bound : machine.stack.depth + 1 ≤ 16 := room
    simp only [push, answer_bind, answer_inspect, toNat_pointer, ofMachine_slots, replace?,
      dif_pos room, answer_setSlots, byte?_eq above, answer_liftM_some,
      answer_setPointer _ _ _ bound, CallStack.push]
  · simp [push, replace?, CallStack.push, room]

theorem answer_pop (caller : UInt16) :
    answer (pop caller) (ofMachine machine) events =
      match machine.stack.pop caller with
      | .ok (value, stack) => some (.ok value, ofMachine { machine with stack := stack }, events)
      | .error fault => some (.error fault, ofMachine machine, events) := by
  have bound := machine.stack.depth_le
  by_cases pending : 0 < machine.stack.depth
  · have positive : machine.stack.depth ≠ 0 := Nat.ne_of_gt pending
    have inside : machine.stack.depth - 1 < 16 := by omega
    have below : machine.stack.depth - 1 ≤ 16 := Nat.le_of_lt inside
    simp [pop, CallStack.pop, pending, positive, difference?_eq pending, inside,
      answer_setPointer _ _ _ below, Vector.get]
  · simp [pop, CallStack.pop, Nat.eq_zero_of_not_pos pending]

@[simp] theorem answer_clearStack :
    answer clearStack (ofMachine machine) events =
      some (.ok (), ofMachine { machine with stack := .empty }, events) := rfl

end Parts

end Chip8.Bare
