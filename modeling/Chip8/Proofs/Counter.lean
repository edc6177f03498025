import Chip8.Proofs.Bounds

/-!
# Where the program counter goes

The words after which the next word does not follow, and where each of them leads: to its address,
to its address and the first register together, behind the latest call, or past the next word under
a condition on registers and keys. After every other word, one that is no instruction included, the
next word follows, even where the instruction has written over its own word in memory.
-/
namespace Chip8

namespace Machine

/-- A register holds the number of a key that is down. -/
def NamesKeyDown (machine : Machine) (x : UInt8) : Prop :=
  (machine.reg x).toNat < 16 ∧ machine.keys.bits.toNat.testBit (machine.reg x).toNat = true

/-- The words that skip the next one, each under its condition. -/
inductive Skips (machine : Machine) : UInt16 → Prop where
  | equalByte {x byte : UInt8} (hx : x.toNat < 16) (equal : machine.reg x = byte) :
    Skips machine (Instruction.withByte 0x3 x byte)
  | notEqualByte {x byte : UInt8} (hx : x.toNat < 16) (differ : machine.reg x ≠ byte) :
    Skips machine (Instruction.withByte 0x4 x byte)
  | equal {x y : UInt8} (hx : x.toNat < 16) (hy : y.toNat < 16)
    (equal : machine.reg x = machine.reg y) :
    Skips machine (Instruction.nibbles 0x5 x.toNat y.toNat 0x0)
  | notEqual {x y : UInt8} (hx : x.toNat < 16) (hy : y.toNat < 16)
    (differ : machine.reg x ≠ machine.reg y) :
    Skips machine (Instruction.nibbles 0x9 x.toNat y.toNat 0x0)
  | keyDown {x : UInt8} (hx : x.toNat < 16) (down : machine.NamesKeyDown x) :
    Skips machine (Instruction.withByte 0xE x 0x9E)
  | keyNotDown {x : UInt8} (hx : x.toNat < 16) (up : ¬ machine.NamesKeyDown x) :
    Skips machine (Instruction.withByte 0xE x 0xA1)

/-- The words after which the next one does not follow, and the address that they lead to. -/
inductive Departs (machine : Machine) : UInt16 → Nat → Prop where
  | jump {target : UInt16} (small : target.toNat < 0x1000) :
    Departs machine (Instruction.withAddress 0x1 target) target.toNat
  | call {target : UInt16} (small : target.toNat < 0x1000) :
    Departs machine (Instruction.withAddress 0x2 target) target.toNat
  | offset {base : UInt16} (small : base.toNat < 0x1000) :
    Departs machine (Instruction.withAddress 0xB base) ((machine.reg 0).toNat + base.toNat)
  | returns {caller : UInt16} (latest : machine.stack.entries.getLast? = some caller) :
    Departs machine 0x00EE (caller.toNat + 2)
  | skips {word : UInt16} (holds : machine.Skips word) :
    Departs machine word (machine.counter.toNat + 4)

variable {machine : Machine} {word : UInt16} {instruction : Instruction} {effect : Effect}

/-! ## Skips -/

theorem isDown_reg_iff {x : UInt8} :
    machine.keys.isDown (machine.reg x) = true ↔ machine.NamesKeyDown x := by
  simp [Keypad.isDown, NamesKeyDown]

theorem not_isDown_reg_iff {x : UInt8} :
    (!machine.keys.isDown (machine.reg x)) = true ↔ ¬ machine.NamesKeyDown x := by
  rw [← isDown_reg_iff, Bool.not_eq_true', Bool.not_eq_true]

theorem skipIf_eq_skip_iff {condition : Bool} :
    Flow.skipIf condition = .skip ↔ condition = true := by
  cases condition <;> decide

theorem skipIf_cases (condition : Bool) :
    Flow.skipIf condition = .next ∨ Flow.skipIf condition = .skip := by
  cases condition
  · exact .inl rfl
  · exact .inr rfl

/-- A word that skips is the word of an instruction that goes on past the next one. -/
theorem Skips.spelled (skips : machine.Skips word) :
    ∃ i : Instruction, i.Encodable ∧ i.encode = word ∧
      machine.execute i = .ok (machine.go .skip) := by
  have met : ∀ {condition}, condition = true →
      (.ok (machine.go (.skipIf condition)) : Except Fault Effect) = .ok (machine.go .skip) :=
    fun holds => by rw [skipIf_eq_skip_iff.mpr holds]
  cases skips with
  | @equalByte x byte hx equal =>
    exact ⟨.skipIfEqualByte x byte, hx, rfl, met (beq_iff_eq.mpr equal)⟩
  | @notEqualByte x byte hx differ =>
    exact ⟨.skipIfNotEqualByte x byte, hx, rfl, met (bne_iff_ne.mpr differ)⟩
  | @equal x y hx hy equal => exact ⟨.skipIfEqual x y, ⟨hx, hy⟩, rfl, met (beq_iff_eq.mpr equal)⟩
  | @notEqual x y hx hy differ =>
    exact ⟨.skipIfNotEqual x y, ⟨hx, hy⟩, rfl, met (bne_iff_ne.mpr differ)⟩
  | @keyDown x hx down => exact ⟨.skipIfKeyPressed x, hx, rfl, met (isDown_reg_iff.mpr down)⟩
  | @keyNotDown x hx up => exact ⟨.skipIfKeyNotPressed x, hx, rfl, met (not_isDown_reg_iff.mpr up)⟩

/-- The words that skip are those whose instruction goes on past the next word. -/
theorem skips_iff (decoded : Instruction.ofWord? word = some instruction)
    (done : machine.execute instruction = .ok effect) :
    machine.Skips word ↔ effect.flow = .skip := by
  constructor
  · intro skips
    obtain ⟨i, fits, rfl, executed⟩ := skips.spelled
    cases Instruction.eq_of_encode i decoded fits
    cases executed.symm.trans done
    rfl
  · intro flow
    have fits := Instruction.ofWord?_encodable decoded
    cases instruction with
    | skipIfEqualByte x byte =>
      cases done
      rw [← Instruction.encode_of_ofWord? decoded rfl]
      exact .equalByte fits (beq_iff_eq.mp (skipIf_eq_skip_iff.mp flow))
    | skipIfNotEqualByte x byte =>
      cases done
      rw [← Instruction.encode_of_ofWord? decoded rfl]
      exact .notEqualByte fits (bne_iff_ne.mp (skipIf_eq_skip_iff.mp flow))
    | skipIfEqual x y =>
      cases done
      rw [← Instruction.encode_of_ofWord? decoded rfl]
      exact .equal fits.1 fits.2 (beq_iff_eq.mp (skipIf_eq_skip_iff.mp flow))
    | skipIfNotEqual x y =>
      cases done
      rw [← Instruction.encode_of_ofWord? decoded rfl]
      exact .notEqual fits.1 fits.2 (bne_iff_ne.mp (skipIf_eq_skip_iff.mp flow))
    | skipIfKeyPressed x =>
      cases done
      rw [← Instruction.encode_of_ofWord? decoded rfl]
      exact .keyDown fits (isDown_reg_iff.mp (skipIf_eq_skip_iff.mp flow))
    | skipIfKeyNotPressed x =>
      cases done
      rw [← Instruction.encode_of_ofWord? decoded rfl]
      exact .keyNotDown fits (not_isDown_reg_iff.mp (skipIf_eq_skip_iff.mp flow))
    | subReturn | call _ | draw _ _ _ | storeDigits _ | storeRegisters _ | loadRegisters _ =>
      obtain ⟨_, _, done⟩ := bind_ok done
      cases done
      cases flow
    | _ =>
      cases done
      cases flow

/-! ## Departures -/

/-- A word that departs is the word of an instruction that leads where the word says. -/
theorem Departs.spelled (bounded : machine.Bounded) (readable : machine.counter.toNat ≤ 0xFFE)
    {target : Nat} (departs : machine.Departs word target) :
    ∃ i : Instruction, i.Encodable ∧ i.encode = word ∧ ∀ effect, machine.execute i = .ok effect →
      (effect.flow.follow machine.counter).toNat = target := by
  cases departs with
  | @jump target small =>
    refine ⟨.jump target, small, rfl, fun effect done => ?_⟩
    cases done
    rfl
  | @call target small =>
    refine ⟨.call target, small, rfl, fun effect done => ?_⟩
    obtain ⟨stack, _, done⟩ := bind_ok done
    cases done
    rfl
  | @offset base small =>
    refine ⟨.jumpOffset base, small, rfl, fun effect done => ?_⟩
    cases done
    exact toNat_offset _ small
  | @returns caller latest =>
    refine ⟨.subReturn, trivial, rfl, fun effect done => ?_⟩
    obtain ⟨⟨top, stack⟩, popped, done⟩ := bind_ok done
    cases done
    rw [CallStack.entries_pop popped, List.getLast?_concat] at latest
    cases latest
    exact (toNat_popped bounded popped).2
  | skips holds =>
    obtain ⟨i, fits, spelled, executed⟩ := holds.spelled
    refine ⟨i, fits, spelled, fun effect done => ?_⟩
    cases executed.symm.trans done
    exact (toNat_follow readable).2

/-- An instruction that does not go on with the next word is that of a word that departs. -/
theorem exists_departs (decoded : Instruction.ofWord? word = some instruction)
    (done : machine.execute instruction = .ok effect) (away : effect.flow ≠ .next) :
    ∃ target, machine.Departs word target := by
  have fits := Instruction.ofWord?_encodable decoded
  by_cases skip : effect.flow = .skip
  · exact ⟨_, .skips ((skips_iff decoded done).mpr skip)⟩
  · cases instruction with
    | jump target =>
      rw [← Instruction.encode_of_ofWord? decoded rfl]
      exact ⟨_, .jump fits⟩
    | call target =>
      rw [← Instruction.encode_of_ofWord? decoded rfl]
      exact ⟨_, .call fits⟩
    | jumpOffset base =>
      rw [← Instruction.encode_of_ofWord? decoded rfl]
      exact ⟨_, .offset fits⟩
    | subReturn =>
      obtain ⟨⟨top, stack⟩, popped, _⟩ := bind_ok done
      rw [← Instruction.encode_of_ofWord? decoded rfl]
      have latest : machine.stack.entries.getLast? = some top := by
        rw [CallStack.entries_pop popped, List.getLast?_concat]
      exact ⟨_, .returns latest⟩
    | skipIfEqualByte _ _ | skipIfNotEqualByte _ _ | skipIfEqual _ _ | skipIfNotEqual _ _
    | skipIfKeyPressed _ | skipIfKeyNotPressed _ =>
      cases done
      exact (skipIf_cases _).elim (absurd · away) (absurd · skip)
    | draw _ _ _ | storeDigits _ | storeRegisters _ | loadRegisters _ =>
      obtain ⟨_, _, done⟩ := bind_ok done
      cases done
      exact absurd rfl away
    | _ =>
      cases done
      exact absurd rfl away

/-! ## Cycles -/

/-- Where an instruction that goes through leaves the program counter. -/
theorem follow_law (bounded : machine.Bounded) (readable : machine.counter.toNat ≤ 0xFFE)
    (decoded : Instruction.ofWord? word = some instruction)
    (done : machine.execute instruction = .ok effect) :
    (∀ target, machine.Departs word target →
      (effect.flow.follow machine.counter).toNat = target) ∧
    ((∀ target, ¬ machine.Departs word target) →
      (effect.flow.follow machine.counter).toNat = machine.counter.toNat + 2) := by
  refine ⟨fun target departs => ?_, fun stays => ?_⟩
  · obtain ⟨i, fits, rfl, leads⟩ := departs.spelled bounded readable
    cases Instruction.eq_of_encode i decoded fits
    exact leads effect done
  · have next : effect.flow = .next := Classical.byContradiction fun away => by
      obtain ⟨target, departs⟩ := exists_departs decoded done away
      exact stays target departs
    rw [next]
    exact (toNat_follow readable).1

/-- A cycle that goes through leaves the program counter where the word that it found there leads,
and behind that word where it leads nowhere. -/
theorem step_counter (bounded : machine.Bounded) (free : machine.keyWait = none) {cycle : Cycle}
    (through : machine.step.result = .ok cycle) :
    ∃ word, machine.memory.HoldsWord machine.counter.toNat word ∧
      (∀ target, machine.Departs word target → machine.step.machine.counter.toNat = target) ∧
      ((∀ target, ¬ machine.Departs word target) →
        machine.step.machine.counter.toNat = machine.counter.toNat + 2) := by
  have way := step_cases machine
  generalize machine.step = outcome at way through ⊢
  cases way with
  | waits wait => exact absurd (free.symm.trans wait) nofun
  | unreadable _ _ | faults _ _ _ _ => cases through
  | @skips word _ read unknown =>
    refine ⟨word, Memory.readWord_eq_ok_iff.mp read, fun target departs => ?_, fun _ => ?_⟩
    · obtain ⟨i, fits, rfl, _⟩ := departs.spelled bounded (readable_of_readWord read)
      exact absurd (unknown.symm.trans (Instruction.ofWord?_encode i fits)) nofun
    · rw [counted, countCycle_counter]
      exact (toNat_follow (readable_of_readWord read)).1
  | @executes word instruction effect _ read decoded done =>
    refine ⟨word, Memory.readWord_eq_ok_iff.mp read, ?_⟩
    rw [counted, countCycle_counter]
    exact follow_law bounded (readable_of_readWord read) decoded done

/-- A cycle that waits for a key does not move the program counter. -/
theorem step_counter_of_wait (waiting : machine.keyWait ≠ none) :
    machine.step.machine.counter = machine.counter := by
  obtain ⟨x, waiting⟩ := Option.ne_none_iff_exists'.mp waiting
  rw [step_of_waiting waiting]
  exact countCycle_counter machine

/-- Beside cycles only starting over moves the program counter. -/
theorem apply_counter {operation : Operation} (cycle : operation ≠ .step)
    (reset : operation ≠ .reset) :
    (machine.apply operation).machine.counter = machine.counter := by
  cases operation with
  | load program =>
    obtain ⟨memory, same⟩ := load_eq machine program
    show (machine.load program).machine.counter = machine.counter
    rw [same]
  | tick => rfl
  | input keys =>
    obtain ⟨registers, keyWait, _, same⟩ := applyKeys_eq machine keys
    show (machine.applyKeys keys).1.counter = machine.counter
    rw [same]
  | step => exact absurd rfl cycle
  | reset => exact absurd rfl reset

/-- The law of the program counter on a reachable machine. Without a wait for a key, a cycle that
goes through has found a word in memory, and leaves the program counter at the address that this
word departs to, or behind the word if it does not depart. A wait for a key, and every other
operation than starting over, leaves the program counter alone. -/
theorem counter_law (reachable : Reachable machine) :
    (machine.keyWait = none → ∀ cycle, machine.step.result = .ok cycle →
      ∃ word, machine.memory.HoldsWord machine.counter.toNat word ∧
        (∀ target, machine.Departs word target → machine.step.machine.counter.toNat = target) ∧
        ((∀ target, ¬ machine.Departs word target) →
          machine.step.machine.counter.toNat = machine.counter.toNat + 2)) ∧
    (machine.keyWait ≠ none → machine.step.machine.counter = machine.counter) ∧
    ∀ operation, operation ≠ .step → operation ≠ .reset →
      (machine.apply operation).machine.counter = machine.counter := by
  refine ⟨fun free cycle through => ?_, step_counter_of_wait, fun _ => apply_counter⟩
  exact step_counter reachable.bounded free through

/-- A machine that holds 31 in its first register while all keys are down, before `E0A1`. -/
def askingPastKeys : Machine :=
  (powerOn 500 (.constant 0)).run [.load [0x60, 0x1F, 0xE0, 0xA1], .input ⟨0xFFFF⟩, .step]

/-- There is no key with this number, so it is not down and the next word is skipped. -/
theorem askingPastKeys_skips : Reachable askingPastKeys ∧
    askingPastKeys.counter.toNat = 0x202 ∧ askingPastKeys.step.machine.counter.toNat = 0x206 := by
  have reachable : Reachable askingPastKeys :=
    .run (.start 500 (.constant 0)) [.load [0x60, 0x1F, 0xE0, 0xA1], .input ⟨0xFFFF⟩, .step]
  have looks : (askingPastKeys.keyWait, askingPastKeys.counter.toNat,
      (askingPastKeys.memory.readWord 0x202).toOption, (askingPastKeys.reg 0).toNat) =
      (none, 0x202, some 0xE0A1, 31) := by
    decide +kernel
  simp only [Prod.mk.injEq] at looks
  obtain ⟨free, counter, found, number⟩ := looks
  have through : askingPastKeys.step.result = .ok (.executed (.skipIfKeyNotPressed 0)) := by
    apply ok_of_toOption
    decide +kernel
  obtain ⟨word, held, leads, _⟩ := (counter_law reachable).1 free _ through
  rw [counter] at held
  cases held.unique (Memory.readWord_eq_ok_iff.mp (ok_of_toOption found))
  have up : ¬ askingPastKeys.NamesKeyDown 0 := fun down => by
    have small := down.1
    omega
  have skips : askingPastKeys.Skips 0xE0A1 := .keyNotDown (by decide) up
  refine ⟨reachable, counter, ?_⟩
  rw [leads _ (.skips skips), counter]

end Machine
end Chip8
