import Chip8.Proofs.Bounds

/-!
# Registers and digits in memory

`FX55` writes the first registers to memory and `FX33` the decimal digits of one of them; `FX65`
fills the first registers from there. The three agree on where a block lies and how long it is. So
what was written is given back whatever happens in between, as long as the index register and the
bytes of the block are still those that the writing cycle left.
-/
namespace Chip8.Machine

/-- A cycle that writes a block of bytes from the index register on. It goes through exactly when
the block ends in memory. -/
structure StoresBlock (machine : Machine) (bytes : List UInt8) : Prop where
  through_iff : (∃ cycle, machine.step.result = .ok cycle) ↔
    machine.index.toNat + bytes.length ≤ 4096
  stored : ∀ cycle, machine.step.result = .ok cycle →
    machine.step.machine.memory.HoldsBlock machine.index.toNat bytes
  beside : ∀ cycle, machine.step.result = .ok cycle → ∀ address,
    address < machine.index.toNat ∨ machine.index.toNat + bytes.length ≤ address →
      machine.step.machine.memory.read address = machine.memory.read address
  index : machine.step.machine.index = machine.index

/-- A cycle that fills the registers up to one of them from a block of bytes. -/
structure LoadsBlock (machine : Machine) (x : UInt8) (bytes : List UInt8) : Prop where
  through : machine.step.result = .ok (.executed (.loadRegisters x))
  loaded : ∀ y : UInt8, y.toNat ≤ x.toNat →
    bytes[y.toNat]? = some (machine.step.machine.reg y)
  beyond : ∀ y : UInt8, x.toNat < y.toNat → y.toNat < 16 →
    machine.step.machine.reg y = machine.reg y
  index : machine.step.machine.index = machine.index
  memory : machine.step.machine.memory = machine.memory

/-- What a cycle has written is loaded by a word `FX65` at any later time at which the index
register and the bytes of the block are those that the cycle left. -/
def GivesBack (machine : Machine) (x : UInt8) (bytes : List UInt8) : Prop :=
  ∀ cycle operations later, machine.step.result = .ok cycle →
    machine.step.machine.run operations = later →
    later.index = machine.step.machine.index →
    (∀ j ≤ x.toNat, later.memory.read (machine.step.machine.index.toNat + j) =
      machine.step.machine.memory.read (machine.step.machine.index.toNat + j)) →
    later.keyWait = none →
    later.memory.HoldsWord later.counter.toNat (Instruction.withByte 0xF x 0x65) →
    later.LoadsBlock x bytes

variable {machine : Machine} {x : UInt8} {bytes : List UInt8} {word : UInt16}
  {instruction : Instruction}

/-! ## Digits -/

/-- The decimal digits of a byte. -/
theorem decimalDigits_spec (value : UInt8) : ∃ h t o : UInt8, decimalDigits value = [h, t, o] ∧
    h ≤ 9 ∧ t ≤ 9 ∧ o ≤ 9 ∧ 100 * h.toNat + 10 * t.toNat + o.toNat = value.toNat := by
  have small := value.toNat_lt
  refine ⟨_, _, _, rfl, ?_⟩
  simp only [UInt8.le_iff_toNat_le, UInt8.toNat_div, UInt8.toNat_mod, UInt8.reduceToNat]
  omega

/-! ## Cycles that write -/

/-- A cycle writes a block if that is what its instruction does. -/
theorem storesBlock_of_execute (free : machine.keyWait = none)
    (held : machine.memory.HoldsWord machine.counter.toNat word)
    (decoded : Instruction.ofWord? word = some instruction)
    (writes : machine.execute instruction = (do
      let memory ← machine.memory.writeRange machine.index.toNat bytes
      return proceed { machine with memory := memory })) :
    machine.StoresBlock bytes := by
  have read := Memory.readWord_eq_ok_iff.mpr held
  cases wrote : machine.memory.writeRange machine.index.toNat bytes with
  | error fault =>
    obtain ⟨past, _⟩ := Memory.writeRange_error_iff.mp wrote
    have failed : machine.execute instruction = .error fault := by rw [writes, wrote]; rfl
    have stepped := step_of_faults free read decoded failed
    have never : ∀ cycle, machine.step.result ≠ .ok cycle := fun cycle through => by
      rw [stepped] at through
      cases through
    constructor
    · exact ⟨fun ⟨cycle, through⟩ => absurd through (never cycle),
        fun fits => absurd past (Nat.not_lt.mpr fits)⟩
    · exact fun cycle through => absurd through (never cycle)
    · exact fun cycle through => absurd through (never cycle)
    · rw [stepped]
  | ok memory =>
    obtain ⟨fits, _⟩ := Memory.writeRange_eq_ok_iff.mp wrote
    have done : machine.execute instruction = .ok (proceed { machine with memory := memory }) := by
      rw [writes, wrote]
      rfl
    have stepped := step_of_executes free read decoded done
    have after : machine.step.machine.memory = memory := by
      rw [stepped, counted, countCycle_memory]
      rfl
    constructor
    · exact ⟨fun _ => fits, fun _ => ⟨_, congrArg Outcome.result stepped⟩⟩
    · intro _ _
      rw [after]
      exact Memory.holdsBlock_of_writeRange wrote
    · intro _ _ address beside
      rw [after]
      exact Memory.read_of_writeRange wrote beside
    · rw [stepped, counted, countCycle_index]
      rfl

/-! ## Cycles that load -/

/-- The word `FX65` loads the block that memory holds at the index register. -/
theorem loadsBlock_of_holdsBlock (free : machine.keyWait = none) (hx : x.toNat < 16)
    (held : machine.memory.HoldsWord machine.counter.toNat (Instruction.withByte 0xF x 0x65))
    (length : bytes.length = x.toNat + 1)
    (block : machine.memory.HoldsBlock machine.index.toNat bytes) : machine.LoadsBlock x bytes := by
  have read := Memory.readWord_eq_ok_iff.mpr held
  have decoded := Instruction.ofWord?_encode (.loadRegisters x) hx
  have values : machine.memory.readRange machine.index.toNat (Registers.place x + 1) =
      .ok bytes := by
    rw [Registers.val_place hx, ← length]
    exact block.readRange (length ▸ Nat.succ_pos _)
  have done : machine.execute (.loadRegisters x) =
      .ok (proceed { machine with registers := machine.registers.fill bytes }) := by
    rw [execute, values]
    rfl
  have stepped := step_of_executes free read decoded done
  have filled : ∀ y : UInt8, y.toNat < 16 →
      machine.step.machine.reg y = bytes.getD y.toNat (machine.reg y) := fun y hy =>
    (step_reg free read decoded done y).trans (Registers.get_fill _ _ hy)
  constructor
  · exact congrArg Outcome.result stepped
  · intro y first
    have inside : y.toNat < bytes.length := by omega
    rw [filled y (Nat.lt_of_le_of_lt first hx), List.getD_eq_getElem?_getD,
      List.getElem?_eq_getElem inside, Option.getD_some]
  · intro y beyond hy
    have outside : bytes.length ≤ y.toNat := by omega
    rw [filled y hy, List.getD_eq_getElem?_getD, List.getElem?_eq_none outside, Option.getD_none]
  · rw [stepped, counted, countCycle_index]
    simp only [moved, proceed]
  · rw [stepped, counted, countCycle_memory]
    simp only [moved, proceed]

/-- A block that was written is given back. -/
theorem StoresBlock.givesBack (stores : machine.StoresBlock bytes) (hx : x.toNat < 16)
    (length : bytes.length = x.toNat + 1) : machine.GivesBack x bytes := by
  intro cycle operations later through _ index same free held
  refine loadsBlock_of_holdsBlock free hx held length fun j inside => ?_
  have first : j ≤ x.toNat := by omega
  rw [index, same j first, stores.index]
  exact stores.stored cycle through j inside

/-- Blocks of registers and of digits. On a machine that waits for no key, `FX55` writes the
registers up to `VX` and `FX33` the three decimal digits of `VX`, and neither changes another byte;
they go through exactly when the block ends in memory. And `FX65` gives back what they have written,
with `V2` the last register for the three digits. -/
theorem blocks_given_back (free : machine.keyWait = none) (hx : x.toNat < 16) :
    (machine.memory.HoldsWord machine.counter.toNat (Instruction.withByte 0xF x 0x55) →
      ∃ bytes : List UInt8, bytes.length = x.toNat + 1 ∧
        (∀ y : UInt8, y.toNat ≤ x.toNat → bytes[y.toNat]? = some (machine.reg y)) ∧
        machine.StoresBlock bytes ∧ machine.GivesBack x bytes) ∧
    (machine.memory.HoldsWord machine.counter.toNat (Instruction.withByte 0xF x 0x33) →
      ∃ h t o : UInt8, h ≤ 9 ∧ t ≤ 9 ∧ o ≤ 9 ∧
        100 * h.toNat + 10 * t.toNat + o.toNat = (machine.reg x).toNat ∧
        machine.StoresBlock [h, t, o] ∧ machine.GivesBack 2 [h, t, o]) := by
  constructor
  · intro held
    have length : (machine.registers.upTo x).length = x.toNat + 1 := by
      rw [Registers.length_upTo, Registers.val_place hx]
    have stores : machine.StoresBlock (machine.registers.upTo x) :=
      storesBlock_of_execute free held (Instruction.ofWord?_encode (.storeRegisters x) hx) rfl
    exact ⟨_, length, fun y => Registers.getElem?_upTo _ hx, stores, stores.givesBack hx length⟩
  · intro held
    obtain ⟨h, t, o, digits, hh, ht, ho, sum⟩ := decimalDigits_spec (machine.reg x)
    have stores : machine.StoresBlock (decimalDigits (machine.reg x)) :=
      storesBlock_of_execute free held (Instruction.ofWord?_encode (.storeDigits x) hx) rfl
    rw [digits] at stores
    exact ⟨h, t, o, hh, ht, ho, sum, stores, stores.givesBack (by decide) rfl⟩

/-- A machine about to write all registers to memory, with 42 in the last one. -/
def savingAll : Machine :=
  (powerOn 500 (.constant 0)).run
    [.load [0x6F, 0x2A, 0xA3, 0x00, 0xFF, 0x55, 0x6F, 0x00, 0xFF, 0x65], .step, .step]

/-- The last register, cleared in between, is given back. -/
theorem savingAll_restores : Reachable savingAll ∧
    savingAll.step.machine.step.machine.reg 0xF = 0 ∧
    savingAll.step.machine.step.machine.step.machine.reg 0xF = 0x2A := by
  have reachable : Reachable savingAll :=
    .run (.start 500 (.constant 0))
      [.load [0x6F, 0x2A, 0xA3, 0x00, 0xFF, 0x55, 0x6F, 0x00, 0xFF, 0x65], .step, .step]
  have before : (savingAll.keyWait, savingAll.counter.toNat, savingAll.index.toNat,
      savingAll.reg 0xF, (savingAll.memory.readWord 0x204).toOption) =
      (none, 0x204, 0x300, 0x2A, some 0xFF55) := by
    decide +kernel
  have after : (savingAll.step.machine.keyWait,
      (savingAll.step.machine.memory.readWord savingAll.step.machine.counter.toNat).toOption,
      savingAll.step.machine.step.machine.keyWait,
      savingAll.step.machine.step.machine.counter.toNat,
      savingAll.step.machine.step.machine.reg 0xF,
      (savingAll.step.machine.step.machine.memory.readWord 0x208).toOption) =
      (none, some 0x6F00, none, 0x208, 0, some 0xFF65) := by
    decide +kernel
  simp only [Prod.mk.injEq] at before after
  obtain ⟨free, counter, index, value, found⟩ := before
  obtain ⟨free', found', free'', counter'', cleared, found''⟩ := after
  have held : savingAll.memory.HoldsWord savingAll.counter.toNat 0xFF55 := by
    rw [counter]
    exact Memory.readWord_eq_ok_iff.mp (ok_of_toOption found)
  obtain ⟨bytes, length, registers, stores, back⟩ :=
    (blocks_given_back (x := 0xF) free (by decide)).1 held
  have fits : savingAll.index.toNat + bytes.length ≤ 4096 := by
    rw [index, length]
    decide
  obtain ⟨cycle, through⟩ := stores.through_iff.mpr fits
  have clears : ∀ saved : Machine, saved.keyWait = none →
      saved.memory.readWord saved.counter.toNat = .ok 0x6F00 →
      saved.step.machine.index = saved.index ∧ saved.step.machine.memory = saved.memory := by
    intro saved free read
    have decoded : Instruction.ofWord? 0x6F00 = some (.loadByte 0xF 0) := by decide
    rw [step_of_executes free read decoded rfl, counted, countCycle_index, countCycle_memory]
    exact ⟨rfl, rfl⟩
  have ran : ∀ saved : Machine, saved.run [.step] = saved.step.machine := fun _ => rfl
  obtain ⟨sameIndex, sameMemory⟩ := clears _ free' (ok_of_toOption found')
  have held'' : savingAll.step.machine.step.machine.memory.HoldsWord
      savingAll.step.machine.step.machine.counter.toNat 0xFF65 := by
    rw [counter'']
    exact Memory.readWord_eq_ok_iff.mp (ok_of_toOption found'')
  have restores := back cycle [.step] _ through (ran savingAll.step.machine) sameIndex
  have loads := restores (fun j _ => by rw [sameMemory]) free'' held''
  have last := (loads.loaded 0xF (Nat.le_refl _)).symm.trans (registers 0xF (Nat.le_refl _))
  exact ⟨reachable, cleared, (Option.some.inj last).trans value⟩

end Chip8.Machine
