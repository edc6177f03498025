import Chip8.Proofs.Bare.Blocks

/-!
# Instructions of the bare machine

On a machine within its bounds every instruction that was decoded has an answer on the bare machine,
and it is the one of the machine: the same flow, the same machine afterwards laid out bare and the
same events, or the same fault with everything as it was.
-/
namespace Chip8.Bare

variable (machine : Machine) (events : List Event)

/-- What the bare machine answers when an instruction has this effect or fault. -/
def settled (machine : Machine) (events : List Event) :
    Except Fault Machine.Effect → Option (Except Fault Flow × Bare × List Event)
  | .ok effect => some (.ok effect.flow, ofMachine effect.machine, events ++ effect.events)
  | .error fault => some (.error fault, ofMachine machine, events)

@[simp] theorem settled_error (fault : Fault) :
    settled machine events (.error fault) = some (.error fault, ofMachine machine, events) := rfl

@[simp] theorem settled_ok (after : Machine) (flow : Flow) (told : List Event) :
    settled machine events (.ok ⟨after, flow, told⟩) =
      some (.ok flow, ofMachine after, events ++ told) := rfl

@[simp] theorem settled_proceed (after : Machine) :
    settled machine events (.ok after.proceed) = some (.ok .next, ofMachine after, events) := by
  simp [Machine.proceed]

@[simp] theorem settled_go (after : Machine) (flow : Flow) :
    settled machine events (.ok (after.go flow)) = some (.ok flow, ofMachine after, events) := by
  simp [Machine.go]

/-! ## Registers -/

theorem answer_combine {x y : UInt8} (hx : x.toNat < 16) (hy : y.toNat < 16)
    (value : UInt8 → UInt8 → UInt8) :
    answer (combine x y value) (ofMachine machine) events =
      some (.ok .next, ofMachine (machine.setReg x (value (machine.reg x) (machine.reg y))),
        events) := by
  simp [combine, answer_readRegister machine events hx, answer_readRegister machine events hy,
    answer_writeRegister machine events hx]

theorem answer_writeFlag (flagged : Bool) :
    answer (writeRegister flag (bit flagged)) (ofMachine machine) events =
      some (.ok (),
        ofMachine { machine with registers := machine.registers.setFlag flagged }, events) :=
  answer_writeRegister machine events (by decide) _

theorem answer_combineFlagged {x y : UInt8} (hx : x.toNat < 16) (hy : y.toNat < 16)
    {value flagged : UInt8 → UInt8 → UInt8} (condition : UInt8 → UInt8 → Bool)
    (agree : ∀ a b, flagged a b = bit (condition a b)) :
    answer (combineFlagged x y value flagged) (ofMachine machine) events =
      some (.ok .next,
        ofMachine (machine.setRegFlag x (value (machine.reg x) (machine.reg y))
          (condition (machine.reg x) (machine.reg y))), events) := by
  simp [combineFlagged, answer_readRegister machine events hx,
    answer_readRegister machine events hy, answer_writeRegister machine events hx, agree,
    answer_writeFlag]
  rfl

theorem answer_compare {x y : UInt8} (hx : x.toNat < 16) (hy : y.toNat < 16)
    (condition : UInt8 → UInt8 → Bool) :
    answer (compare x y condition) (ofMachine machine) events =
      some (.ok (.skipIf (condition (machine.reg x) (machine.reg y))), ofMachine machine,
        events) := by
  simp [compare, answer_readRegister machine events hx, answer_readRegister machine events hy]

theorem answer_test {x : UInt8} (hx : x.toNat < 16) (condition : UInt8 → Bool) :
    answer (test x condition) (ofMachine machine) events =
      some (.ok (.skipIf (condition (machine.reg x))), ofMachine machine, events) := by
  simp [test, answer_readRegister machine events hx]

/-- The bit that a shift to the right loses. -/
theorem lowBit_eq (a : UInt8) : a &&& 1 = bit (a.toNat % 2 == 1) := by
  refine UInt8.toNat_inj.mp ?_
  rw [UInt8.toNat_and]
  rcases Nat.mod_two_eq_zero_or_one a.toNat with zero | one
  · simp [zero, bit]
  · simp [one, bit]

/-- The bit that a shift to the left loses. -/
theorem highBit_eq (a : UInt8) : a >>> 7 = bit (128 ≤ a.toNat) := by
  have bound := a.toNat_lt
  have shifted : (a >>> 7).toNat = a.toNat / 128 := by simp [Nat.shiftRight_eq_div_pow]
  refine UInt8.toNat_inj.mp ?_
  by_cases high : 128 ≤ a.toNat
  · rw [shifted, bit, if_pos (decide_eq_true high)]
    show a.toNat / 128 = 1
    omega
  · rw [shifted, bit, if_neg (by simpa using high)]
    show a.toNat / 128 = 0
    omega

/-- A difference borrows when it would be below zero. -/
theorem notBorrowed_eq (a b : UInt8) : bit (!decide (a < b)) = bit (b ≤ a) := by
  simp [← UInt8.not_lt]

/-! ## Addresses -/

/-- A return address is no number that wraps around. -/
theorem callerWord_eq {machine : Machine} (bounded : machine.Bounded) {caller : UInt16}
    {stack : CallStack} (popped : machine.stack.pop machine.counter = .ok (caller, stack)) :
    word? (caller.toNat + 2) = some (caller + 2) := by
  have small := (Machine.toNat_popped bounded popped).1
  rw [word?_eq (by omega)]
  refine congrArg Option.some (UInt16.toNat_inj.mp ?_)
  simp

theorem offsetWord_eq {base : UInt16} (fits : base.toNat < 0x1000) :
    word? ((machine.reg 0).toNat + base.toNat) = some ((machine.reg 0).toUInt16 + base) := by
  have bound := (machine.reg 0).toNat_lt
  rw [word?_eq (by omega)]
  refine congrArg Option.some (UInt16.toNat_inj.mp ?_)
  simp

theorem glyphWord_eq (digit : UInt8) :
    word? (digit.toNat * Memory.glyphSize) = some (Machine.glyphAddress digit) := by
  have bound := digit.toNat_lt
  have small : digit.toNat * 5 < 0x10000 := by omega
  rw [word?_eq small]
  refine congrArg Option.some (UInt16.toNat_inj.mp ?_)
  simp [Machine.glyphAddress]

/-- The number of registers up to one is no size that wraps around. -/
theorem countSize_eq {x : UInt8} (hx : x.toNat < 16) :
    size? (x.toNat + 1) = some ((Registers.place x).val + 1) := by
  rw [size?_eq (by omega)]
  simp [Registers.place, Nat.mod_eq_of_lt hx]

/-! ## Blocks -/

theorem answer_readSprite (rows : UInt8) :
    answer (readSprite rows) (ofMachine machine) events =
      some (machine.sprite rows, ofMachine machine, events) := by
  have start := machine.index.toNat_lt
  have length := rows.toNat_lt
  have small : machine.index.toNat + rows.toNat < 0x10000000000000000 := by omega
  by_cases none : rows = 0
  · simp [readSprite, none, Machine.sprite]
  · simp [readSprite, none, Machine.sprite, answer_readRange machine events small]

theorem sprite_length_le {machine : Machine} {rows : UInt8} {sprite : List UInt8}
    (found : machine.sprite rows = .ok sprite) : sprite.length ≤ Memory.size := by
  unfold Machine.sprite at found
  split at found
  · cases found
    exact Nat.zero_le _
  · obtain ⟨length, inside⟩ := Memory.length_of_readRange found
    omega

/-- A block that memory does not hold is a fault before any byte is copied. -/
theorem answer_storeBlock {source : Work (List UInt8)} {bytes : List UInt8}
    (known : answer source (ofMachine machine) events =
      some (.ok bytes, ofMachine machine, events)) (few : bytes.length ≤ 16) :
    answer (storeBlock bytes.length source) (ofMachine machine) events =
      match machine.memory.writeRange machine.index.toNat bytes with
      | .ok memory => some (.ok (), ofMachine { machine with memory := memory }, events)
      | .error fault => some (.error fault, ofMachine machine, events) := by
  have start := machine.index.toNat_lt
  have small : machine.index.toNat + bytes.length < 0x10000000000000000 := by omega
  by_cases inside : machine.index.toNat + bytes.length ≤ Memory.size
  · simp [storeBlock, answer_rangeEnd machine events small, inside, known,
      answer_writeRange machine events inside, Memory.writeRange]
  · simp [storeBlock, answer_rangeEnd machine events small, inside, Memory.writeRange]

theorem answer_storeDigits (value : UInt8) :
    answer (storeBlock 3 (pure (Machine.decimalDigits value))) (ofMachine machine) events =
      match machine.memory.writeRange machine.index.toNat (Machine.decimalDigits value) with
      | .ok memory => some (.ok (), ofMachine { machine with memory := memory }, events)
      | .error fault => some (.error fault, ofMachine machine, events) := by
  have length : (Machine.decimalDigits value).length = 3 := rfl
  rw [← length]
  exact answer_storeBlock machine events (answer_pure _ _ _) (by omega)

theorem answer_storeRegisters {x : UInt8} (hx : x.toNat < 16) :
    answer (storeBlock (Registers.place x + 1) (firstRegisters (Registers.place x + 1)))
      (ofMachine machine) events =
      match machine.memory.writeRange machine.index.toNat (machine.registers.upTo x) with
      | .ok memory => some (.ok (), ofMachine { machine with memory := memory }, events)
      | .error fault => some (.error fault, ofMachine machine, events) := by
  have place : (Registers.place x).val = x.toNat := Nat.mod_eq_of_lt hx
  have known := answer_firstRegisters machine events hx
  have length := machine.registers.length_upTo x
  rw [← place] at known
  rw [← length] at known ⊢
  exact answer_storeBlock machine events known (by omega)

/-- The registers that are filled from memory. -/
theorem copy?_fill (registers : Registers) {bytes : List UInt8} (few : bytes.length ≤ 16) :
    copy? registers.cells 0 bytes.length bytes = some (registers.fill bytes).cells := by
  simp [copy?, few, Registers.fill]

theorem registersFilled_eq {machine : Machine} {x : UInt8} {bytes : List UInt8}
    (found : machine.memory.readRange machine.index.toNat (Registers.place x + 1) = .ok bytes) :
    copy? machine.registers.cells 0 (Registers.place x + 1) bytes =
      some (machine.registers.fill bytes).cells := by
  have inside := (Registers.place x).isLt
  obtain ⟨length, _⟩ := Memory.length_of_readRange found
  rw [← length]
  exact copy?_fill machine.registers (by omega)

/-! ## All instructions -/

/-- A decoded instruction has an answer on the bare machine, and it is the one of the machine. -/
theorem answer_execute {machine : Machine} {instruction : Instruction} (bounded : machine.Bounded)
    (fits : instruction.Encodable) :
    answer (execute instruction) (ofMachine machine) events =
      settled machine events (machine.execute instruction) := by
  cases instruction with
  | clearScreen => simp [execute, Machine.execute]
  | subReturn =>
    cases popped : machine.stack.pop machine.counter with
    | error fault => simp [execute, Machine.execute, answer_pop, popped]
    | ok top =>
      have above := callerWord_eq bounded popped
      simp [execute, Machine.execute, answer_pop, popped, above]
  | jump target => simp [execute, Machine.execute]
  | call target =>
    cases pushed : machine.stack.push machine.counter machine.counter with
    | error fault => simp [execute, Machine.execute, answer_push, pushed]
    | ok stack => simp [execute, Machine.execute, answer_push, pushed]
  | skipIfEqualByte x byte | skipIfNotEqualByte x byte =>
    simp [execute, Machine.execute, answer_test machine events fits]
  | skipIfEqual x y | skipIfNotEqual x y =>
    simp [execute, Machine.execute, answer_compare machine events fits.1 fits.2]
  | skipIfKeyPressed x | skipIfKeyNotPressed x =>
    simp [execute, Machine.execute, answer_readRegister machine events fits, answer_isDown]
  | loadByte x byte => simp [execute, Machine.execute, answer_writeRegister machine events fits]
  | addByte x byte =>
    simp [execute, Machine.execute, answer_readRegister machine events fits,
      answer_writeRegister machine events fits]
  | copy x y =>
    simp [execute, Machine.execute, answer_readRegister machine events fits.2,
      answer_writeRegister machine events fits.1]
  | loadDelay x => simp [execute, Machine.execute, answer_writeRegister machine events fits]
  | random x mask =>
    simp [execute, Machine.execute, answer_writeRegister { machine with random := _ } events fits]
  | or x y | and x y | xor x y =>
    simp [execute, Machine.execute, answer_combine machine events fits.1 fits.2]
  | add x y =>
    simp [execute, Machine.execute, answer_combineFlagged machine events fits.1 fits.2
      (fun a b => decide (256 ≤ a.toNat + b.toNat)) fun _ _ => rfl]
  | sub x y =>
    simp [execute, Machine.execute, answer_combineFlagged machine events fits.1 fits.2
      (fun a b => decide (b ≤ a)) notBorrowed_eq]
  | subReverse x y =>
    simp [execute, Machine.execute, answer_combineFlagged machine events fits.1 fits.2
      (fun a b => decide (a ≤ b)) fun a b => notBorrowed_eq b a]
  | shiftRight x =>
    simp [execute, Machine.execute, answer_combineFlagged machine events fits fits
      (fun a _ => a.toNat % 2 == 1) fun a _ => lowBit_eq a]
  | shiftLeft x =>
    simp [execute, Machine.execute, answer_combineFlagged machine events fits fits
      (fun a _ => decide (128 ≤ a.toNat)) fun a _ => highBit_eq a]
  | loadIndex target => simp [execute, Machine.execute]
  | jumpOffset base =>
    have offset := offsetWord_eq machine fits
    simp [execute, Machine.execute, answer_readRegister, offset]
  | waitForKey x => simp [execute, Machine.execute]
  | setDelay x | setSound x | addIndex x =>
    simp [execute, Machine.execute, answer_readRegister machine events fits]
  | loadGlyph x =>
    have read := answer_readRegister machine events fits
    by_cases missing : 0xF < machine.reg x
    · simp [execute, Machine.execute, read, missing, glyphWord_eq]
    · simp [execute, Machine.execute, read, missing, glyphWord_eq]
  | draw x y rows =>
    obtain ⟨hx, hy, _⟩ := fits
    cases found : machine.sprite rows with
    | error fault => simp [execute, Machine.execute, answer_readSprite, found]
    | ok sprite =>
      have small := sprite_length_le found
      simp [execute, Machine.execute, answer_readSprite, found,
        answer_readRegister machine events hx, answer_readRegister machine events hy,
        answer_drawSprite machine events small, answer_writeFlag]
  | storeDigits x =>
    have stored := answer_storeDigits machine events (machine.reg x)
    cases written : machine.memory.writeRange machine.index.toNat
        (Machine.decimalDigits (machine.reg x)) with
    | error fault =>
      rw [written, Machine.decimalDigits] at stored
      simp [execute, Machine.execute, answer_readRegister machine events fits, written, stored]
    | ok memory =>
      rw [written, Machine.decimalDigits] at stored
      simp [execute, Machine.execute, answer_readRegister machine events fits, written, stored]
  | storeRegisters x =>
    have stored := answer_storeRegisters machine events fits
    cases written : machine.memory.writeRange machine.index.toNat (machine.registers.upTo x) with
    | error fault =>
      simp [execute, Machine.execute, countSize_eq fits, stored, written]
    | ok memory =>
      simp [execute, Machine.execute, countSize_eq fits, stored, written]
  | loadRegisters x =>
    have start := machine.index.toNat_lt
    have inside := (Registers.place x).isLt
    have small : machine.index.toNat + (Registers.place x + 1) < 0x10000000000000000 := by omega
    cases found : machine.memory.readRange machine.index.toNat (Registers.place x + 1) with
    | error fault =>
      simp [execute, Machine.execute, countSize_eq fits, answer_readRange machine events small,
        found]
    | ok bytes =>
      have filled := registersFilled_eq found
      simp [execute, Machine.execute, countSize_eq fits, answer_readRange machine events small,
        found, filled]

end Chip8.Bare
