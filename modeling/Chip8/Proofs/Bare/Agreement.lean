import Chip8.Proofs.Bare.Instructions

/-!
# Agreement of the bare machine

On a machine within its bounds every operation has an answer on the bare machine, and it is the one
of the machine: the same result, the same machine afterwards laid out bare and the same events. In
particular a cycle that faults leaves everything as it was, though nothing is put back.
-/
namespace Chip8.Bare

variable {machine : Machine} (events : List Event)

/-- What the bare machine answers when an operation has this outcome. -/
def reported {α : Type} (events : List Event) (outcome : Outcome (Except Fault α)) :
    Option (Except Fault α × Bare × List Event) :=
  some (outcome.result, ofMachine outcome.machine, events ++ outcome.events)

/-! ## Cycles -/

/-- From a readable address the counter moves without wrapping around. -/
theorem answer_follow (machine : Machine) {address : UInt16} (readable : address.toNat ≤ 0xFFE)
    (flow : Flow) :
    answer (follow address flow) (ofMachine machine) events =
      some (.ok (), ofMachine { machine with counter := flow.follow address }, events) := by
  cases flow with
  | next =>
    have small : address.toNat + 2 < 0x10000 := by omega
    simp [follow, answer_moveTo machine events small, Flow.follow]
  | skip =>
    have small : address.toNat + 4 < 0x10000 := by omega
    simp [follow, answer_moveTo machine events small, Flow.follow]
  | jump target => simp [follow, answer_moveTo machine events target.toNat_lt, Flow.follow]

theorem answer_perform (bounded : machine.Bounded) {word : UInt16} {instruction : Instruction}
    (readable : machine.counter.toNat ≤ 0xFFE)
    (decoded : Instruction.ofWord? word = some instruction) :
    answer (perform machine.counter word instruction) (ofMachine machine) events =
      reported events (machine.perform word instruction) := by
  have executed := answer_execute (events ++ [.fetched machine.counter word instruction]) bounded
    (Instruction.ofWord?_encodable decoded)
  cases done : machine.execute instruction with
  | error fault => simp [perform, Machine.perform, reported, executed, done]
  | ok effect =>
    obtain ⟨after, flow, told⟩ := effect
    cases draws : instruction.draws with
    | false =>
      simp [perform, Machine.perform, reported, executed, done, answer_follow _ _ readable,
        Machine.presented, draws]
    | true =>
      simp [perform, Machine.perform, reported, executed, done, answer_follow _ _ readable,
        Machine.presented, draws, screenOf_map]

theorem answer_runInstruction (bounded : machine.Bounded) :
    answer runInstruction (ofMachine machine) events =
      reported events machine.runInstruction := by
  have fetched := answer_readWord machine events machine.counter.toNat
  cases read : machine.memory.readWord machine.counter.toNat with
  | error fault => simp [runInstruction, Machine.runInstruction, reported, fetched, read]
  | ok word =>
    have readable := Machine.readable_of_readWord read
    cases decoded : Instruction.ofWord? word with
    | none =>
      have moved := answer_follow (events ++ [.invalidWord word machine.counter]) machine readable
        .next
      rw [follow] at moved
      simp [runInstruction, Machine.runInstruction, reported, fetched, read, decoded, moved,
        Flow.follow]
    | some instruction =>
      simp [runInstruction, Machine.runInstruction, fetched, read, decoded,
        answer_perform events bounded readable decoded]

/-! ## Timers -/

/-- Counting a timer down without going below zero. -/
theorem countDown_of_pos {timer : UInt8} (positive : 0 < timer) :
    (timer.toNat - 1).toUInt8 = Machine.countDown timer := by
  have bound := timer.toNat_lt
  have some : 0 < timer.toNat := positive
  rw [Machine.countDown, if_neg (UInt8.pos_iff_ne_zero.mp positive)]
  refine UInt8.toNat_inj.mp ?_
  rw [UInt8.toNat_sub_of_le timer 1 some, Nat.toUInt8_eq, UInt8.toNat_ofNat', UInt8.toNat_one]
  omega

theorem countDown_of_not_pos {timer : UInt8} (none : ¬ 0 < timer) :
    Machine.countDown timer = timer := by
  have zero : timer = 0 := Decidable.not_not.mp (mt UInt8.pos_iff_ne_zero.mpr none)
  rw [Machine.countDown, if_pos zero, zero]

theorem answer_countDelay :
    answer countDelay (ofMachine machine) events =
      some (.ok (), ofMachine { machine with delay := Machine.countDown machine.delay },
        events) := by
  by_cases positive : 0 < machine.delay
  · have some : 1 ≤ machine.delay.toNat := positive
    simp [countDelay, positive, difference?_eq some, countDown_of_pos positive]
  · simp [countDelay, positive, countDown_of_not_pos positive]

theorem answer_countSound :
    answer countSound (ofMachine machine) events =
      some (.ok (), ofMachine { machine with sound := Machine.countDown machine.sound },
        events ++ if machine.sound = 1 then [.soundExpired] else []) := by
  by_cases positive : 0 < machine.sound
  · have some : 1 ≤ machine.sound.toNat := positive
    by_cases last : machine.sound = 1
    · have counted := countDown_of_pos positive
      rw [last] at counted
      simp [countSound, last, difference?_eq, ← counted]
    · simp [countSound, positive, last, difference?_eq some, countDown_of_pos positive]
  · have early : ¬ machine.sound = 1 := fun last => positive (last ▸ by decide)
    simp [countSound, positive, early, countDown_of_not_pos positive]

theorem answer_tick :
    answer tick (ofMachine machine) events =
      some (.ok (), ofMachine machine.tick.1, events ++ machine.tick.2) := by
  simp [tick, answer_countDelay, answer_countSound, Machine.tick]

/-- Cycles between two counts of the timers are a number of 32 bits. -/
theorem cyclesPerTick_eq (rate : UInt32) :
    cyclesPerTick rate = (Timing.cyclesPerTick rate).toUInt32 := by
  have bound := rate.toNat_lt
  have quotient : (rate / 60).toNat = rate.toNat / 60 := by simp
  refine UInt32.toNat_inj.mp ?_
  by_cases slow : rate / 60 < 1
  · have zero : rate.toNat / 60 < 1 := quotient ▸ UInt32.lt_iff_toNat_lt.mp slow
    rw [cyclesPerTick, if_pos slow, Timing.cyclesPerTick, Timing.timerRate, Nat.toUInt32_eq,
      UInt32.toNat_ofNat']
    show 1 = _
    omega
  · have some : ¬ rate.toNat / 60 < 1 := fun zero =>
      slow (UInt32.lt_iff_toNat_lt.mpr (quotient ▸ zero))
    rw [cyclesPerTick, if_neg slow, quotient, Timing.cyclesPerTick, Timing.timerRate,
      Nat.toUInt32_eq, UInt32.toNat_ofNat']
    omega

theorem toNat_divider (le : machine.divider ≤ machine.cyclesPerTick) :
    machine.divider.toUInt32.toNat = machine.divider := by
  have bound := machine.rate.toNat_lt
  rw [Machine.cyclesPerTick, Timing.cyclesPerTick, Timing.timerRate] at le
  rw [Nat.toUInt32_eq, UInt32.toNat_ofNat']
  omega

theorem answer_countCycle (pos : 1 ≤ machine.divider)
    (le : machine.divider ≤ machine.cyclesPerTick) :
    answer countCycle (ofMachine machine) events =
      some (.ok (), ofMachine machine.countCycle.1, events ++ machine.countCycle.2) := by
  have left : difference? machine.divider.toUInt32.toNat 1 = some (machine.divider - 1) := by
    rw [toNat_divider le, difference?_eq pos]
  by_cases last : machine.divider - 1 = 0
  · simp only [countCycle, answer_bind, answer_inspect, ofMachine_divider, left, answer_liftM_some,
      ofMachine_rate, cyclesPerTick_eq, answer_setDivider, last, ↓reduceIte, answer_tick,
      Machine.countCycle, Machine.cyclesPerTick]
  · simp only [countCycle, answer_bind, answer_inspect, ofMachine_divider, left, answer_liftM_some,
      answer_setDivider, if_neg last, answer_pure, Machine.countCycle, List.append_nil]

theorem answer_attempt (bounded : machine.Bounded) :
    answer attempt (ofMachine machine) events = reported events machine.attempt := by
  cases wait : machine.keyWait with
  | some x => simp [attempt, Machine.attempt, wait, reported]
  | none => simp [attempt, Machine.attempt, wait, answer_runInstruction events bounded]

theorem answer_step (bounded : machine.Bounded) :
    answer step (ofMachine machine) events = reported events machine.step := by
  obtain ⟨divider, rate⟩ := Machine.attempt_frame machine
  have cyclesPerTick : machine.attempt.machine.cyclesPerTick = machine.cyclesPerTick :=
    congrArg Timing.cyclesPerTick rate
  cases done : machine.attempt.result with
  | error fault =>
    simp [step, answer_attempt events bounded, reported, done, Machine.step]
  | ok cycle =>
    have counted := answer_countCycle (events ++ machine.attempt.events)
      (show 1 ≤ machine.attempt.machine.divider by rw [divider]; exact bounded.divider_pos)
      (by rw [divider, cyclesPerTick]; exact bounded.divider_le)
    simp [step, answer_attempt events bounded, reported, done, Machine.step, counted]

/-! ## Keys, programs and starting over -/

theorem answer_replaceKeys (keys : Keypad) :
    answer (replaceKeys keys) (ofMachine machine) events =
      some (.ok (), ofMachine { machine with keys := keys },
        events ++ if keys = machine.keys then [] else [.keysChanged keys]) := by
  by_cases same : keys = machine.keys
  · simp [replaceKeys, same]
  · have different : ¬ keys.bits = machine.keys.bits := fun bits =>
      same (congrArg Keypad.mk bits)
    simp [replaceKeys, same, different]

theorem answer_applyKeys (bounded : machine.Bounded) (keys : Keypad) :
    answer (applyKeys keys) (ofMachine machine) events =
      some (.ok (), ofMachine (machine.applyKeys keys).1,
        events ++ (machine.applyKeys keys).2) := by
  cases wait : machine.keyWait with
  | none => simp [applyKeys, answer_replaceKeys, deliverKey, wait, Machine.applyKeys]
  | some x =>
    have small := bounded.keyWait_lt x wait
    cases lowest : keys.lowest? with
    | none => simp [applyKeys, answer_replaceKeys, deliverKey, wait, lowest, Machine.applyKeys]
    | some key =>
      simp only [applyKeys, answer_bind, answer_replaceKeys, deliverKey, answer_inspect,
        ofMachine_keyWait, wait, lowest, answer_tell, answer_writeRegister _ _ small,
        answer_setKeyWait, Machine.applyKeys, List.append_assoc]

/-- A program that was accepted is followed by the halt marker within memory. -/
theorem end_le_size {program : List UInt8} (small : program.length ≤ Memory.maxProgram) :
    Memory.programStart + program.length + Memory.haltMarker.length ≤ Memory.size := by
  have most : Memory.programStart + Memory.maxProgram + Memory.haltMarker.length = Memory.size :=
    rfl
  omega

theorem answer_load (program : List UInt8) :
    answer (load program) (ofMachine machine) events = reported events (machine.load program) := by
  by_cases small : program.length ≤ Memory.maxProgram
  · have accepted : ¬ Memory.maxProgram < program.length := Nat.not_lt.mpr small
    have second := end_le_size small
    have first := Nat.le_trans (Nat.le_add_right _ Memory.haltMarker.length) second
    have size : Memory.size < 0x10000000000000000 := by decide
    have written := answer_writeRange machine events first
    have marked := answer_writeRange
      { machine with memory := machine.memory.store Memory.programStart program } events second
    rw [← Memory.store_append] at marked
    simp only [load, if_neg accepted, answer_bind, answer_liftM_some,
      size?_eq (Nat.lt_of_le_of_lt first size), size?_eq (Nat.lt_of_le_of_lt second size), written,
      marked, answer_tell, Machine.load, Memory.load, if_pos small, reported]
  · simp [load, Nat.lt_of_not_le small, Machine.load, Memory.load, small, reported]

theorem answer_reset :
    answer reset (ofMachine machine) events =
      some (.ok (), ofMachine machine.reset.machine, events ++ Machine.resetEvents) := by
  have counter (machine : Machine) (events : List Event) :=
    answer_moveTo machine events (show Memory.programStart < 0x10000 by decide)
  simp only [reset, answer_bind, answer_inspect, answer_setMemory, answer_setRegisters,
    answer_setIndex, counter, answer_clearStack, answer_setDelay, answer_setSound, ofMachine_rate,
    cyclesPerTick_eq, answer_setDivider, answer_clearCells, answer_setKeys, answer_setKeyWait,
    answer_tell, List.append_assoc, List.cons_append, List.nil_append, Machine.reset,
    Machine.resetEvents, Machine.startCounter, Machine.cyclesPerTick]

end Chip8.Bare
