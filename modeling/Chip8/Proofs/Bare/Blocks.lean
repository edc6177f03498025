import Chip8.Proofs.Bare.Answers
import Mathlib.Data.Nat.Bitwise

/-!
# Blocks of bytes and bits on the bare machine

Ranges of memory, sprites and keys: the bare machine reads, copies and draws as the machine does,
with cells that are bytes.
-/
namespace Chip8.Bare

variable (machine : Machine) (events : List Event)

/-! ## Memory -/

theorem answer_rangeEnd {start length : Nat} (small : start + length < 0x10000000000000000) :
    answer (rangeEnd start length) (ofMachine machine) events =
      if start + length ≤ Memory.size then some (.ok (start + length), ofMachine machine, events)
      else some (.error (Memory.rangeFault start length), ofMachine machine, events) := by
  by_cases inside : start + length ≤ Memory.size
  · simp [rangeEnd, size?_eq small, inside]
  · simp [rangeEnd, size?_eq small, inside, Memory.rangeFault]

theorem answer_readByte (address : Nat) :
    answer (readByte address) (ofMachine machine) events =
      some (machine.memory.read address, ofMachine machine, events) := by
  by_cases inside : address < Memory.size
  · simp [readByte, inside, Memory.read_ok]
  · have outside : Memory.size ≤ address := Nat.le_of_not_lt inside
    simp [readByte, outside, Memory.read_error]

/-- The address behind a byte of memory is no size that wraps around. -/
theorem answer_readWord (address : Nat) :
    answer (readWord address) (ofMachine machine) events =
      some (machine.memory.readWord address, ofMachine machine, events) := by
  simp only [readWord, answer_bind, answer_readByte, Memory.readWord]
  by_cases inside : address < Memory.size
  · have small : address + 1 < 0x10000000000000000 := by
      simp only [Memory.size] at inside
      omega
    simp only [Memory.read_ok inside, size?_eq small, answer_liftM_some, answer_readByte]
    cases machine.memory.read (address + 1) with
    | error fault => rfl
    | ok low => rfl
  · simp only [Memory.read_error (Nat.le_of_not_lt inside)]
    rfl

theorem answer_readRange {start length : Nat} (small : start + length < 0x10000000000000000) :
    answer (readRange start length) (ofMachine machine) events =
      some (machine.memory.readRange start length, ofMachine machine, events) := by
  by_cases inside : start + length ≤ Memory.size
  · have bytes : (machine.memory.bytes.toList.take (start + length)).drop start =
        List.ofFn fun i : Fin length => machine.memory.bytes.get ⟨start + i, by omega⟩ := by
      apply List.ext_getElem
      · simp only [List.length_drop, List.length_take, Vector.length_toList, List.length_ofFn]
        omega
      · intro i _ _
        simp [Vector.get]
    simp [readRange, answer_rangeEnd machine events small, inside, Memory.readRange, bytes]
  · simp [readRange, answer_rangeEnd machine events small, inside, Memory.readRange]

/-- Copying a block into memory is storing it. -/
theorem copy?_store {start : Nat} {bytes : List UInt8}
    (inside : start + bytes.length ≤ Memory.size) :
    copy? machine.memory.bytes start (start + bytes.length) bytes =
      some (machine.memory.store start bytes).bytes := by
  have fits : start ≤ start + bytes.length ∧ start + bytes.length ≤ Memory.size ∧
      bytes.length = start + bytes.length - start := by omega
  rw [copy?, if_pos fits]
  refine congrArg some (Vector.ext fun i small => ?_)
  rw [Memory.getElem_store, Vector.getElem_ofFn]
  rfl

theorem answer_writeRange {start : Nat} {bytes : List UInt8}
    (inside : start + bytes.length ≤ Memory.size) :
    answer (writeRange start (start + bytes.length) bytes) (ofMachine machine) events =
      some (.ok (), ofMachine { machine with memory := machine.memory.store start bytes },
        events) := by
  simp [writeRange, copy?_store machine inside]

theorem answer_firstRegisters {x : UInt8} (small : x.toNat < 16) :
    answer (firstRegisters (x.toNat + 1)) (ofMachine machine) events =
      some (.ok (machine.registers.upTo x), ofMachine machine, events) := by
  have fits : x.toNat + 1 ≤ machine.registers.cells.toList.length := by
    rw [Vector.length_toList]
    exact small
  simp only [firstRegisters, answer_bind, answer_inspect, ofMachine_registers, if_pos fits,
    answer_pure, Registers.upTo, Registers.toList, Registers.place, Nat.mod_eq_of_lt small]

/-! ## Drawing -/

def bytesOf (state : Screen × Bool) : Cells × Bool :=
  (state.1.cells.map cellByte, state.2)

/-- A bit of a sprite row, counted from the left. -/
theorem maskBit_eq_zero (row : UInt8) {bit : Nat} (small : bit < 8) :
    row &&& (0x80 >>> bit.toUInt8) = 0 ↔ row.toNat.testBit (7 - bit) = false := by
  have mask : ∀ bit : Fin 8, ((0x80 : UInt8) >>> bit.val.toUInt8).toNat = 2 ^ (7 - bit.val) := by
    decide
  rw [← UInt8.toNat_inj, UInt8.toNat_and, mask ⟨bit, small⟩, Nat.and_two_pow]
  cases row.toNat.testBit (7 - bit) <;> simp

def plotted (x y r : Nat) (row : UInt8) (state : Screen × Bool) (bit : Nat) : Screen × Bool :=
  if row.toNat.testBit (7 - bit) then Screen.toggle state (Screen.cellAt (x + bit) (y + r))
  else state

theorem cellByte_not (lit : Bool) : cellByte lit ^^^ 1 = cellByte (!lit) := by
  cases lit <;> decide

theorem cellByte_eq_one (lit : Bool) : (cellByte lit == 1) = lit := by
  cases lit <;> decide

theorem plotBit_bytesOf {x y r : Nat} {row : UInt8} {bit : Nat} (small : bit < 8)
    (column : x + bit < 0x10000000000000000) (line : y + r < 0x10000000000000000) (state : Screen × Bool) :
    plotBit x y r row (bytesOf state) bit = some (bytesOf (plotted x y r row state bit)) := by
  by_cases set : row.toNat.testBit (7 - bit) = true
  · have unmasked : ¬ row &&& (0x80 >>> bit.toUInt8) = 0 := by
      rw [maskBit_eq_zero row small, set]
      decide
    have inside : (y + r) % Screen.height * Screen.width + (x + bit) % Screen.width <
        Screen.height * Screen.width := (Screen.cellAt (x + bit) (y + r)).isLt
    simp only [plotBit, if_neg unmasked, size?_eq column, size?_eq line, Option.bind_eq_bind,
      Option.bind_some, bytesOf, Vector.getElem?_map, Vector.getElem?_eq_getElem inside,
      Option.map_some, replace?, dif_pos inside, cellByte_not, cellByte_eq_one, plotted, if_pos set,
      Screen.toggle, Vector.map_set]
    rfl
  · have masked : row &&& (0x80 >>> bit.toUInt8) = 0 :=
      (maskBit_eq_zero row small).mpr (Bool.eq_false_of_not_eq_true set)
    rw [plotBit, if_pos masked, plotted, if_neg set]

/-- A loop that may fail keeps step with one that cannot, when their rounds do. -/
theorem foldlM_keeps_step {α σ τ : Type} {attempt : τ → α → Option τ} {round : σ → α → σ}
    (view : σ → τ) {items : List α}
    (step : ∀ state, ∀ item ∈ items, attempt (view state) item = some (view (round state item)))
    (state : σ) : items.foldlM attempt (view state) = some (view (items.foldl round state)) := by
  induction items generalizing state with
  | nil => rfl
  | cons item rest ih =>
    rw [List.foldlM_cons, step state item (by simp), Option.bind_eq_bind, Option.bind_some,
      List.foldl_cons]
    exact ih (fun state item member => step state item (by simp [member])) _

def plottedRow (x y : Nat) (state : Screen × Bool) (row : UInt8 × Nat) : Screen × Bool :=
  (List.range 8).foldl (plotted x y row.2 row.1) state

/-- Drawing row by row and bit by bit toggles the hits of the sprite in their order. -/
theorem foldl_hits (x y : Nat) (sprite : List UInt8) (state : Screen × Bool) :
    (Screen.hits x y sprite).foldl Screen.toggle state =
      sprite.zipIdx.foldl (plottedRow (x % Screen.width) (y % Screen.height)) state := by
  simp only [Screen.hits, List.foldl_flatMap, List.foldl_map, Screen.setColumns, List.foldl_filter]
  rfl

theorem plotSprite_bytesOf {sprite : List UInt8} (small : sprite.length < 2 ^ 63) (x y : Nat)
    (screen : Screen) :
    plotSprite x y sprite (bytesOf (screen, false)).1 =
      some (bytesOf (screen.drawSprite x y sprite)) := by
  have column : x % Screen.width < 64 := Nat.mod_lt _ (by decide)
  have line : y % Screen.height < 32 := Nat.mod_lt _ (by decide)
  rw [Screen.drawSprite, foldl_hits]
  refine foldlM_keeps_step bytesOf (fun state row member => ?_) (screen, false)
  have inside : row.2 < sprite.length := List.snd_lt_of_mem_zipIdx member
  refine foldlM_keeps_step bytesOf (fun state bit member => ?_) state
  have early : bit < 8 := List.mem_range.mp member
  exact plotBit_bytesOf early (by omega) (by omega) state

theorem answer_drawSprite {sprite : List UInt8} (small : sprite.length ≤ Memory.size) (x y : Nat) :
    answer (drawSprite x y sprite) (ofMachine machine) events =
      some (.ok (machine.screen.drawSprite x y sprite).2,
        ofMachine { machine with screen := (machine.screen.drawSprite x y sprite).1 }, events) := by
  have plotted := plotSprite_bytesOf (Nat.lt_of_le_of_lt small (by decide)) x y machine.screen
  simp only [bytesOf] at plotted
  simp [drawSprite, plotted]

@[simp] theorem answer_clearCells :
    answer clearCells (ofMachine machine) events =
      some (.ok (), ofMachine { machine with screen := .blank }, events ++ [.screenCleared]) := by
  have dark : (Vector.replicate (Screen.height * Screen.width) false).map cellByte =
      Vector.replicate (Screen.height * Screen.width) 0 := by
    rw [Vector.map_replicate]
    rfl
  rw [clearCells, ← dark]
  exact answer_setCells machine (events ++ [.screenCleared]) .blank

/-- The cells show the screen that they were made from. -/
theorem screenOf_map (screen : Screen) : screenOf (screen.cells.map cellByte) = screen := by
  simp [screenOf, Function.comp_def, cellByte_eq_one]

/-! ## Keys -/

/-- A word has all bits of a mask of one bit when it has that bit. -/
theorem and_mask (keys : UInt16) {bit : Nat} (small : bit < 16) :
    (keys &&& 1 <<< bit.toUInt16 == 1 <<< bit.toUInt16) = keys.toNat.testBit bit := by
  have mask : ∀ bit : Fin 16, ((1 : UInt16) <<< bit.val.toUInt16).toNat = 2 ^ bit.val := by
    decide
  rw [Bool.eq_iff_iff, beq_iff_eq, ← UInt16.toNat_inj, UInt16.toNat_and, mask ⟨bit, small⟩,
    Nat.and_two_pow]
  have positive : 2 ^ bit ≠ 0 := Nat.ne_of_gt (Nat.two_pow_pos bit)
  cases keys.toNat.testBit bit <;> simp [positive.symm]

theorem answer_isDown (key : UInt8) :
    answer (isDown key) (ofMachine machine) events =
      some (.ok (machine.keys.isDown key), ofMachine machine, events) := by
  by_cases small : key.toNat < 16
  · have held := and_mask machine.keys.bits small
    simpa [isDown, small, mask?_eq small, Keypad.isDown] using held
  · simp [isDown, small, Keypad.isDown]

theorem pressed?_eq (states : Vector Bool 16) :
    pressed? states = some (Keypad.ofStates states).bits := by
  refine foldlM_keeps_step Keypad.bits (fun keys k _ => ?_) Keypad.empty
  rw [mask?_eq k.isLt]
  split
  · rfl
  · rfl

end Chip8.Bare
