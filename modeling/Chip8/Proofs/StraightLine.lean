import Chip8.Proofs.Cycle
import Chip8.Proofs.Execution

/-!
# Programs in a straight line

A program whose instructions lead to nothing but the next word, wait for nothing and leave memory as
it is. The program counter goes through it word by word, and what it finds is what was loaded, up to
the halt marker behind the last word. On the way only an instruction that reads a block of memory
can fault. What is read from the keys never comes into it.
-/
namespace Chip8

/-- A word of a program by its place, high byte first. -/
def Memory.wordAt (program : List UInt8) (k : Nat) : UInt16 :=
  (program.getD (2 * k) 0).toUInt16 <<< 8 ||| (program.getD (2 * k + 1) 0).toUInt16

/-- An instruction after which the next word follows, that waits for no key, and that does not write
to memory. -/
def Instruction.isStraight : Instruction → Bool
  | .jump _ | .call _ | .subReturn | .jumpOffset _ => false
  | .skipIfEqualByte _ _ | .skipIfNotEqualByte _ _ | .skipIfEqual _ _ | .skipIfNotEqual _ _ => false
  | .skipIfKeyPressed _ | .skipIfKeyNotPressed _ | .waitForKey _ => false
  | .storeDigits _ | .storeRegisters _ => false
  | _ => true

theorem Instruction.part?_of_straight {instruction : Instruction}
    (straight : instruction.isStraight = true) :
    instruction.part? ≠ some .memory ∧ instruction.part? ≠ some .keyWait := by
  cases instruction with
  | storeDigits _ | storeRegisters _ | waitForKey _ => cases straight
  | _ =>
    constructor
    · rintro ⟨⟩
    · rintro ⟨⟩

/-- The cycle of a word that is executed, or stepped over if it is no instruction. -/
def Cycle.ofWord (word : UInt16) : Cycle :=
  match Instruction.ofWord? word with
  | some instruction => .executed instruction
  | none => .decodeFault word

/-- A program of so many words, none of which is the halt marker or leaves the straight line, and
which leaves room for the halt marker. -/
structure StraightLine (program : List UInt8) (n : Nat) : Prop where
  length : program.length = 2 * n
  fits : program.length ≤ 3582
  unmarked : ∀ k < n, Memory.wordAt program k ≠ 0x0EFD
  straight : ∀ k < n,
    (Instruction.ofWord? (Memory.wordAt program k)).all Instruction.isStraight = true

/-! ## A program in memory -/

namespace Memory

variable {program : List UInt8} {n k : Nat}

theorem wordAt_append_left (rest : List UInt8) (inside : 2 * k + 1 < program.length) :
    wordAt (program ++ rest) k = wordAt program k := by
  have first : 2 * k < program.length := by omega
  simp [wordAt, List.getElem?_append_left, first, inside]

/-- The halt marker is the word behind the last one. -/
theorem wordAt_haltMarker (length : program.length = 2 * n) :
    wordAt (program ++ haltMarker) n = 0x0EFD := by
  have high : (program ++ haltMarker).getD (2 * n) 0 = 0x0E := by simp [← length, haltMarker]
  have low : (program ++ haltMarker).getD (2 * n + 1) 0 = 0xFD := by simp [← length, haltMarker]
  rw [wordAt, high, low]
  decide

theorem getElem_initial {i : Nat} (behind : 80 ≤ i) (inside : i < size) :
    initial.bytes[i] = 0 := by
  have length : font.length ≤ i := behind
  rw [initial, getElem_store, if_pos (Nat.zero_le i), Nat.sub_zero, List.getD_eq_getElem?_getD,
    List.getElem?_eq_none length, Option.getD_none]
  simp [zero]

/-- Behind the bytes that were stored at power-on there are zeros. -/
theorem readWord_loaded (bytes : List UInt8) {k : Nat} (inside : k < 1792) :
    (initial.store programStart bytes).readWord (programStart + 2 * k) = .ok (wordAt bytes k) := by
  have byte : ∀ j (small : programStart + j < size),
      (initial.store programStart bytes).bytes[programStart + j] = bytes.getD j 0 := by
    intro j small
    have behind : 80 ≤ programStart + j := Nat.le_add_right_of_le (by decide)
    rw [getElem_store, if_pos (Nat.le_add_right _ _), Nat.add_sub_cancel_left,
      getElem_initial behind small]
  have low : programStart + (2 * k + 1) < size := by
    simp only [programStart, size]
    omega
  have readable : programStart + 2 * k + 1 < size := low
  rw [readWord_ok readable, byte _ (Nat.lt_of_succ_lt readable), wordAt, ← byte _ low]
  rfl

end Memory

namespace Machine

variable {machine : Machine} {program : List UInt8} {n k : Nat}

def steps (machine : Machine) : Nat → Machine
  | 0 => machine
  | k + 1 => (machine.steps k).step.machine

/-- A machine that stands at a word of a program as it was loaded, and waits for no key. -/
structure AtWord (program : List UInt8) (k : Nat) (machine : Machine) : Prop where
  memory : machine.memory =
    Memory.initial.store Memory.programStart (program ++ Memory.haltMarker)
  counter : machine.counter.toNat = 0x200 + 2 * k
  free : machine.keyWait = none

/-- A cycle faults because its instruction, which draws or loads registers, reads a block that
reaches past the end of memory. -/
def Overreaches (machine : Machine) (word : UInt16) : Prop :=
  (∃ address, machine.step.result = .error (.addressOutOfBounds address)) ∧
    ((∃ x y rows, Instruction.ofWord? word = some (.draw x y rows)) ∨
      ∃ x, Instruction.ofWord? word = some (.loadRegisters x))

/-- A new machine that has loaded a program stands at its first word. -/
theorem load_atWord_of_room (room : program.length ≤ 3582) (rate : UInt32) (random : RandomSource) :
    ∃ start, (powerOn rate random).load program =
        ⟨.ok (), start, [.programLoaded program.length]⟩ ∧ start.AtWord program 0 := by
  have loaded : (powerOn rate random).memory.load program =
      .ok (Memory.initial.store Memory.programStart (program ++ Memory.haltMarker)) := if_pos room
  refine ⟨_, by rw [load, loaded], ⟨rfl, rfl, rfl⟩⟩

theorem load_atWord (line : StraightLine program n) (rate : UInt32) (random : RandomSource) :
    ∃ start, (powerOn rate random).load program =
        ⟨.ok (), start, [.programLoaded program.length]⟩ ∧ start.AtWord program 0 :=
  load_atWord_of_room line.fits rate random

/-- The word that is read is a word of the program, or one of what lies behind it. -/
theorem AtWord.found (at_word : AtWord program k machine) (inside : k < 1792) :
    machine.memory.readWord machine.counter.toNat =
      .ok (Memory.wordAt (program ++ Memory.haltMarker) k) := by
  rw [at_word.memory, at_word.counter]
  exact Memory.readWord_loaded _ inside

theorem AtWord.readWord (at_word : AtWord program k machine) (line : StraightLine program n)
    (inside : k ≤ n) : machine.memory.readWord machine.counter.toNat =
      .ok (Memory.wordAt (program ++ Memory.haltMarker) k) := by
  have length := line.length
  have fits := line.fits
  exact at_word.found (by omega)

/-! ## One word -/

/-- After a straight instruction the next word follows, with the same memory and no wait. -/
theorem execute_straight {instruction : Instruction} {effect : Effect}
    (straight : instruction.isStraight = true) (done : machine.execute instruction = .ok effect) :
    effect.flow = .next ∧ effect.machine.memory = machine.memory ∧
      effect.machine.keyWait = machine.keyWait := by
  obtain ⟨memory, keyWait⟩ := Instruction.part?_of_straight straight
  refine ⟨?_, execute_same done .memory memory, execute_same done .keyWait keyWait⟩
  cases instruction with
  | draw _ _ _ | loadRegisters _ =>
    obtain ⟨_, _, done⟩ := bind_ok done
    cases done
    rfl
  | storeDigits _ | storeRegisters _ | call _ | subReturn => cases straight
  | _ =>
    cases done
    first | rfl | cases straight

/-- A straight instruction faults only where it reads past the end of memory. -/
theorem execute_straight_error {instruction : Instruction} {fault : Fault}
    (straight : instruction.isStraight = true)
    (failed : machine.execute instruction = .error fault) :
    (∃ address, fault = .addressOutOfBounds address) ∧
      ((∃ x y rows, instruction = .draw x y rows) ∨ ∃ x, instruction = .loadRegisters x) := by
  rcases execute_error_iff.mp failed with ⟨rfl, _⟩ | ⟨⟨_, rfl⟩, _⟩ | ⟨some, _, rfl⟩
  · cases straight
  · cases straight
  · refine ⟨⟨_, rfl⟩, ?_⟩
    cases instruction with
    | draw x y rows => exact .inl ⟨x, y, rows, rfl⟩
    | loadRegisters x => exact .inr ⟨x, rfl⟩
    | storeDigits _ | storeRegisters _ => cases straight
    | _ => cases some

/-- A machine that has gone on by one word stands at the next one. -/
theorem AtWord.next {after : Machine} (at_word : AtWord program k machine)
    (small : 0x200 + 2 * (k + 1) < UInt16.size) (memory : after.memory = machine.memory)
    (keyWait : after.keyWait = machine.keyWait) (counter : after.counter = machine.counter + 2) :
    AtWord program (k + 1) after.countCycle.1 := by
  constructor
  · rw [countCycle_memory, memory, at_word.memory]
  · rw [countCycle_counter, counter, UInt16.toNat_add, at_word.counter]
    simp only [UInt16.reduceToNat, UInt16.size] at small ⊢
    omega
  · rw [countCycle_keyWait, keyWait, at_word.free]

/-- At a word that is a straight instruction or none, a cycle executes it or steps over it, and
stands at the next one; or its instruction overreaches. -/
theorem AtWord.step_of_straight {word : UInt16} (at_word : AtWord program k machine)
    (found : machine.memory.readWord machine.counter.toNat = .ok word)
    (straight : (Instruction.ofWord? word).all Instruction.isStraight = true)
    (small : 0x200 + 2 * (k + 1) < UInt16.size) :
    machine.Overreaches word ∨
      machine.step.result = .ok (.ofWord word) ∧ AtWord program (k + 1) machine.step.machine := by
  unfold Overreaches Cycle.ofWord
  have way := step_cases machine
  generalize machine.step = outcome at way ⊢
  cases way with
  | waits wait => cases at_word.free.symm.trans wait
  | unreadable _ unread => cases found.symm.trans unread
  | skips _ read unknown =>
    cases found.symm.trans read
    rw [unknown]
    exact .inr ⟨rfl, at_word.next small rfl rfl rfl⟩
  | faults _ read decoded failed =>
    cases found.symm.trans read
    rw [decoded] at straight ⊢
    obtain ⟨⟨address, rfl⟩, instruction⟩ := execute_straight_error straight failed
    simp only [Option.some.injEq]
    exact .inl ⟨⟨address, rfl⟩, instruction⟩
  | executes _ read decoded done =>
    cases found.symm.trans read
    rw [decoded] at straight ⊢
    obtain ⟨flow, memory, keyWait⟩ := execute_straight straight done
    refine .inr ⟨rfl, at_word.next small memory keyWait ?_⟩
    rw [moved, flow]
    rfl

/-- Such are the words of the program. -/
theorem AtWord.step (at_word : AtWord program k machine) (line : StraightLine program n)
    (inside : k < n) :
    machine.Overreaches (Memory.wordAt program k) ∨
      machine.step.result = .ok (.ofWord (Memory.wordAt program k)) ∧
        AtWord program (k + 1) machine.step.machine := by
  have length := line.length
  have fits := line.fits
  have small : 0x200 + 2 * (k + 1) < UInt16.size := by
    simp only [UInt16.size]
    omega
  have found := at_word.readWord line (Nat.le_of_lt inside)
  rw [Memory.wordAt_append_left _ (by omega)] at found
  exact at_word.step_of_straight found (line.straight k inside) small

/-- At the halt marker a cycle steps over it. -/
theorem AtWord.step_last (at_word : AtWord program n machine) (line : StraightLine program n) :
    machine.step.result = .ok (.decodeFault 0x0EFD) := by
  have found := at_word.readWord line (Nat.le_refl n)
  rw [Memory.wordAt_haltMarker line.length] at found
  have unknown : Instruction.ofWord? 0x0EFD = none := by decide
  rw [step_of_unknown at_word.free found unknown, counted]

/-! ## Word by word -/

/-- The steps of a machine that goes through so many words of a program one by one. -/
structure GoesThrough (program : List UInt8) (n : Nat) (start : Machine) : Prop where
  results : ∀ k < n, (start.steps k).step.result = .ok (.ofWord (Memory.wordAt program k))
  reached : ∀ k ≤ n, AtWord program k (start.steps k)

/-- A machine that stands at the first word goes through all words, or up to one whose instruction
overreaches. -/
theorem steps_straight {start : Machine} (at_word : AtWord program 0 start)
    (line : StraightLine program n) :
    (∃ k < n, start.GoesThrough program k ∧
        (start.steps k).Overreaches (Memory.wordAt program k)) ∨
      start.GoesThrough program n := by
  suffices upTo : ∀ m ≤ n, (∃ k < m, start.GoesThrough program k ∧
      (start.steps k).Overreaches (Memory.wordAt program k)) ∨
      start.GoesThrough program m from upTo n (Nat.le_refl n)
  intro m
  induction m with
  | zero =>
    intro _
    refine .inr ⟨fun k none => absurd none (Nat.not_lt_zero k), fun k first => ?_⟩
    cases Nat.le_zero.mp first
    exact at_word
  | succ m ih =>
    intro inside
    rcases ih (Nat.le_of_succ_le inside) with ⟨k, earlier, stopped⟩ | through
    · exact .inl ⟨k, Nat.lt_succ_of_lt earlier, stopped⟩
    · rcases (through.reached m (Nat.le_refl m)).step line inside with beyond | ⟨result, next⟩
      · exact .inl ⟨m, Nat.lt_succ_self m, through, beyond⟩
      · refine .inr ⟨fun k before => ?_, fun k before => ?_⟩
        · rcases Nat.lt_succ_iff_lt_or_eq.mp before with earlier | rfl
          · exact through.results k earlier
          · exact result
        · rcases Nat.le_succ_iff.mp before with earlier | rfl
          · exact through.reached k earlier
          · exact next

/-! ## Other keys -/

def withKeys (machine : Machine) (keys : Keypad) : Machine :=
  { machine with keys := keys }

/-- A straight instruction does not look at the keys. -/
theorem execute_withKeys {instruction : Instruction} (straight : instruction.isStraight = true)
    (keys : Keypad) :
    (machine.withKeys keys).execute instruction = (machine.execute instruction).map fun effect =>
      { effect with machine := effect.machine.withKeys keys } := by
  cases instruction with
  | draw x y rows =>
    show (machine.sprite rows >>= _) = Except.map _ (machine.sprite rows >>= _)
    cases machine.sprite rows <;> rfl
  | loadRegisters x =>
    show (machine.memory.readRange machine.index.toNat (Registers.place x + 1) >>= _) =
      Except.map _ (machine.memory.readRange machine.index.toNat (Registers.place x + 1) >>= _)
    cases machine.memory.readRange machine.index.toNat (Registers.place x + 1) <;> rfl
  | storeDigits _ | storeRegisters _ | call _ | subReturn => cases straight
  | _ => first | rfl | cases straight

theorem countCycle_withKeys (machine : Machine) (keys : Keypad) :
    (machine.withKeys keys).countCycle.1 = machine.countCycle.1.withKeys keys := by
  unfold countCycle
  show (if machine.divider - 1 = 0 then _ else _ : Machine × List Event).1 = _
  split <;> rfl

/-- Nor does a cycle at a word that is a straight instruction or none. -/
theorem step_withKeys {word : UInt16} (free : machine.keyWait = none)
    (found : machine.memory.readWord machine.counter.toNat = .ok word)
    (straight : (Instruction.ofWord? word).all Instruction.isStraight = true) (keys : Keypad) :
    (machine.withKeys keys).step.result = machine.step.result ∧
      (machine.withKeys keys).step.machine = machine.step.machine.withKeys keys := by
  have tried : (machine.withKeys keys).attempt.result = machine.attempt.result ∧
      (machine.withKeys keys).attempt.machine = machine.attempt.machine.withKeys keys := by
    have free' : (machine.withKeys keys).keyWait = none := free
    have found' : (machine.withKeys keys).memory.readWord (machine.withKeys keys).counter.toNat =
        .ok word := found
    cases decoded : Instruction.ofWord? word with
    | none =>
      simp only [attempt, free, free', runInstruction, found, found', decoded]
      exact ⟨trivial, rfl⟩
    | some instruction =>
      rw [decoded] at straight
      simp only [attempt, free, free', runInstruction, found, found', decoded, perform,
        execute_withKeys straight]
      cases machine.execute instruction with
      | error fault => exact ⟨rfl, rfl⟩
      | ok effect => exact ⟨rfl, rfl⟩
  refine ⟨by rw [step_result, step_result, tried.1], ?_⟩
  cases done : machine.attempt.result with
  | error fault => rw [step_of_error done, step_of_error (tried.1.trans done), tried.2]
  | ok cycle =>
    rw [step_of_ok done, step_of_ok (tried.1.trans done), counted, counted, tried.2,
      countCycle_withKeys]

/-! ## All words and the halt marker -/

variable {start : Machine}

/-- With other keys down the machine goes the same way, up to the halt marker and past it. -/
theorem GoesThrough.step_withKeys (through : start.GoesThrough program n)
    (line : StraightLine program n) (inside : k ≤ n) (keys : Keypad) :
    ((start.steps k).withKeys keys).step.result = (start.steps k).step.result ∧
      ((start.steps k).withKeys keys).step.machine = (start.steps (k + 1)).withKeys keys := by
  have at_word := through.reached k inside
  refine Machine.step_withKeys at_word.free (at_word.readWord line inside) ?_ keys
  rcases Nat.lt_or_eq_of_le inside with before | rfl
  · have length := line.length
    rw [Memory.wordAt_append_left _ (by omega)]
    exact line.straight k before
  · rw [Memory.wordAt_haltMarker line.length]
    decide

end Machine
end Chip8
