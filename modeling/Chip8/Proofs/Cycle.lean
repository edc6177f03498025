import Chip8.Machine.Operation

/-!
# The ways a cycle can go

A cycle waits, faults at its fetch or in its instruction, steps over a word that is no instruction,
or executes one. All it does beside that is to count, and counting changes nothing but the two
timers and the divider. Programs and keys from outside change little as well.
-/
namespace Chip8.Machine

/-- An outcome of a cycle whose work is done and which is counted now. -/
def counted (cycle : Cycle) (machine : Machine) (events : List Event) :
    Outcome (Except Fault Cycle) :=
  ⟨.ok cycle, machine.countCycle.1, events ++ machine.countCycle.2⟩

def moved (machine : Machine) (effect : Effect) : Machine :=
  { effect.machine with counter := effect.flow.follow machine.counter }

/-- The five ways a cycle can go, each with its outcome. -/
inductive StepCase (machine : Machine) : Outcome (Except Fault Cycle) → Prop where
  | waits {x : UInt8} (wait : machine.keyWait = some x) :
    StepCase machine (counted .awaitingKey machine [])
  | unreadable {fault : Fault} (free : machine.keyWait = none)
    (unread : machine.memory.readWord machine.counter.toNat = .error fault) :
    StepCase machine ⟨.error fault, machine, []⟩
  | skips {word : UInt16} (free : machine.keyWait = none)
    (read : machine.memory.readWord machine.counter.toNat = .ok word)
    (unknown : Instruction.ofWord? word = none) :
    StepCase machine (counted (.decodeFault word) { machine with counter := machine.counter + 2 }
      [.invalidWord word machine.counter])
  | faults {word : UInt16} {instruction : Instruction} {fault : Fault}
    (free : machine.keyWait = none)
    (read : machine.memory.readWord machine.counter.toNat = .ok word)
    (decoded : Instruction.ofWord? word = some instruction)
    (failed : machine.execute instruction = .error fault) :
    StepCase machine ⟨.error fault, machine, [.fetched machine.counter word instruction]⟩
  | executes {word : UInt16} {instruction : Instruction} {effect : Effect}
    (free : machine.keyWait = none)
    (read : machine.memory.readWord machine.counter.toNat = .ok word)
    (decoded : Instruction.ofWord? word = some instruction)
    (done : machine.execute instruction = .ok effect) :
    StepCase machine (counted (.executed instruction) (machine.moved effect)
      (.fetched machine.counter word instruction :: effect.events ++
        (machine.moved effect).presented instruction))

section Ways

variable {machine : Machine} {word : UInt16} {instruction : Instruction} {effect : Effect}
  {fault : Fault}

/-- A cycle of a machine that waits is counted and nothing else. -/
theorem step_of_waiting {x : UInt8} (waiting : machine.keyWait = some x) :
    machine.step = counted .awaitingKey machine [] := by
  simp [step, attempt, waiting, counted]

/-- A cycle that finds no word in memory. -/
theorem step_of_unreadable (free : machine.keyWait = none)
    (unread : machine.memory.readWord machine.counter.toNat = .error fault) :
    machine.step = ⟨.error fault, machine, []⟩ := by
  simp [step, attempt, free, runInstruction, unread]

/-- A cycle that reads a word which is no instruction. -/
theorem step_of_unknown (free : machine.keyWait = none)
    (read : machine.memory.readWord machine.counter.toNat = .ok word)
    (unknown : Instruction.ofWord? word = none) :
    machine.step = counted (.decodeFault word) { machine with counter := machine.counter + 2 }
      [.invalidWord word machine.counter] := by
  simp [step, attempt, free, runInstruction, read, unknown, counted]

/-- A cycle that reads an instruction which faults. -/
theorem step_of_faults (free : machine.keyWait = none)
    (read : machine.memory.readWord machine.counter.toNat = .ok word)
    (decoded : Instruction.ofWord? word = some instruction)
    (failed : machine.execute instruction = .error fault) :
    machine.step = ⟨.error fault, machine, [.fetched machine.counter word instruction]⟩ := by
  simp [step, attempt, free, runInstruction, read, decoded, perform, failed]

/-- A cycle that reads an instruction which goes through. -/
theorem step_of_executes (free : machine.keyWait = none)
    (read : machine.memory.readWord machine.counter.toNat = .ok word)
    (decoded : Instruction.ofWord? word = some instruction)
    (done : machine.execute instruction = .ok effect) :
    machine.step = counted (.executed instruction) (machine.moved effect)
      (.fetched machine.counter word instruction :: effect.events ++
        (machine.moved effect).presented instruction) := by
  simp [step, attempt, free, runInstruction, read, decoded, perform, done, counted, moved]

end Ways

theorem step_cases (machine : Machine) : StepCase machine machine.step := by
  cases wait : machine.keyWait with
  | some x => exact step_of_waiting wait ▸ .waits wait
  | none =>
    cases read : machine.memory.readWord machine.counter.toNat with
    | error fault => exact step_of_unreadable wait read ▸ .unreadable wait read
    | ok word =>
      cases decoded : Instruction.ofWord? word with
      | none => exact step_of_unknown wait read decoded ▸ .skips wait read decoded
      | some instruction =>
        cases done : machine.execute instruction with
        | error fault =>
          exact step_of_faults wait read decoded done ▸ .faults wait read decoded done
        | ok effect =>
          exact step_of_executes wait read decoded done ▸ .executes wait read decoded done

/-- Before it is counted a cycle has executed an instruction, or at most moved the program
counter. -/
theorem attempt_cases (machine : Machine) :
    (∃ instruction effect, machine.execute instruction = .ok effect ∧
      machine.attempt.result = .ok (.executed instruction) ∧
      machine.attempt.machine = machine.moved effect) ∨
    (∀ instruction, machine.attempt.result ≠ .ok (.executed instruction)) ∧
      ∃ counter, machine.attempt.machine = { machine with counter := counter } := by
  rcases Option.eq_none_or_eq_some machine.keyWait with wait | ⟨x, wait⟩
  case inr =>
    have tried : machine.attempt = ⟨.ok .awaitingKey, machine, []⟩ := by simp [attempt, wait]
    rw [tried]
    exact .inr ⟨nofun, machine.counter, rfl⟩
  case inl =>
    have tried : machine.attempt = machine.runInstruction := by simp [attempt, wait]
    rw [tried]
    cases read : machine.memory.readWord machine.counter.toNat with
    | error fault =>
      have ran : machine.runInstruction = ⟨.error fault, machine, []⟩ := by
        simp [runInstruction, read]
      rw [ran]
      exact .inr ⟨nofun, machine.counter, rfl⟩
    | ok word =>
      cases decoded : Instruction.ofWord? word with
      | none =>
        have ran : machine.runInstruction = ⟨.ok (.decodeFault word),
            { machine with counter := machine.counter + 2 },
            [.invalidWord word machine.counter]⟩ := by
          simp [runInstruction, read, decoded]
        rw [ran]
        exact .inr ⟨nofun, machine.counter + 2, rfl⟩
      | some instruction =>
        have ran : machine.runInstruction = machine.perform word instruction := by
          simp [runInstruction, read, decoded]
        rw [ran, perform]
        cases done : machine.execute instruction with
        | error fault => exact .inr ⟨nofun, machine.counter, rfl⟩
        | ok effect => exact .inl ⟨instruction, effect, done, rfl, rfl⟩

theorem step_of_error {machine : Machine} {fault : Fault}
    (failed : machine.attempt.result = .error fault) : machine.step = machine.attempt := by
  simp only [step, failed]

theorem step_of_ok {machine : Machine} {cycle : Cycle} (done : machine.attempt.result = .ok cycle) :
    machine.step = counted cycle machine.attempt.machine machine.attempt.events := by
  simp only [step, done, counted]

/-- Counting a cycle does not change its result. -/
theorem step_result (machine : Machine) : machine.step.result = machine.attempt.result := by
  cases done : machine.attempt.result with
  | error fault => rw [step_of_error done, done]
  | ok cycle => rw [step_of_ok done, counted]

/-! ## Counting a cycle -/

section Counting

variable (machine : Machine)

/-- Counting a cycle leaves all parts but the timers and the divider as they are. -/
theorem countCycle_eq : ∃ delay sound divider,
    machine.countCycle.1 = { machine with delay := delay, sound := sound, divider := divider } := by
  unfold countCycle tick
  split
  · exact ⟨_, _, _, rfl⟩
  · exact ⟨_, _, _, rfl⟩

@[simp] theorem countCycle_rate : machine.countCycle.1.rate = machine.rate := by
  obtain ⟨_, _, _, h⟩ := countCycle_eq machine
  rw [h]

@[simp] theorem countCycle_memory : machine.countCycle.1.memory = machine.memory := by
  obtain ⟨_, _, _, h⟩ := countCycle_eq machine
  rw [h]

@[simp] theorem countCycle_keys : machine.countCycle.1.keys = machine.keys := by
  obtain ⟨_, _, _, h⟩ := countCycle_eq machine
  rw [h]

@[simp] theorem countCycle_counter : machine.countCycle.1.counter = machine.counter := by
  obtain ⟨_, _, _, h⟩ := countCycle_eq machine
  rw [h]

@[simp] theorem countCycle_index : machine.countCycle.1.index = machine.index := by
  obtain ⟨_, _, _, h⟩ := countCycle_eq machine
  rw [h]

@[simp] theorem countCycle_stack : machine.countCycle.1.stack = machine.stack := by
  obtain ⟨_, _, _, h⟩ := countCycle_eq machine
  rw [h]

@[simp] theorem countCycle_screen : machine.countCycle.1.screen = machine.screen := by
  obtain ⟨_, _, _, h⟩ := countCycle_eq machine
  rw [h]

@[simp] theorem countCycle_keyWait : machine.countCycle.1.keyWait = machine.keyWait := by
  obtain ⟨_, _, _, h⟩ := countCycle_eq machine
  rw [h]

@[simp] theorem countCycle_registers : machine.countCycle.1.registers = machine.registers := by
  obtain ⟨_, _, _, h⟩ := countCycle_eq machine
  rw [h]

@[simp] theorem countCycle_random : machine.countCycle.1.random = machine.random := by
  obtain ⟨_, _, _, h⟩ := countCycle_eq machine
  rw [h]

end Counting

/-- The registers after a cycle are those that its instruction leaves. -/
theorem step_reg {machine : Machine} {word : UInt16} {instruction : Instruction} {effect : Effect}
    (free : machine.keyWait = none)
    (read : machine.memory.readWord machine.counter.toNat = .ok word)
    (decoded : Instruction.ofWord? word = some instruction)
    (done : machine.execute instruction = .ok effect) (x : UInt8) :
    machine.step.machine.reg x = effect.machine.reg x := by
  rw [step_of_executes free read decoded done]
  exact congrArg (Registers.get · x) (countCycle_registers (machine.moved effect))

/-! ## Starting over, programs and keys -/

theorem powerOn_rate (rate : UInt32) (random : RandomSource) : (powerOn rate random).rate = rate :=
  rfl

/-- At power-on a whole tick of cycles is left. -/
theorem powerOn_divider (rate : UInt32) (random : RandomSource) :
    (powerOn rate random).divider = (powerOn rate random).cyclesPerTick := rfl

/-- Starting over leads to the power-on state with the same rate and random source. -/
theorem apply_reset (machine : Machine) :
    (machine.apply .reset).machine = powerOn machine.rate machine.random := rfl

/-- Putting a program into memory leaves everything else as it is. -/
theorem load_eq (machine : Machine) (program : List UInt8) :
    ∃ memory, (machine.load program).machine = { machine with memory := memory } := by
  unfold load
  split
  · exact ⟨_, rfl⟩
  · exact ⟨machine.memory, rfl⟩

/-- Keys change the keys, a register and the wait for a key, which they can only end. -/
theorem applyKeys_eq (machine : Machine) (keys : Keypad) :
    ∃ registers keyWait, (keyWait = none ∨ keyWait = machine.keyWait) ∧
      (machine.applyKeys keys).1 =
        { machine with keys := keys, registers := registers, keyWait := keyWait } := by
  unfold applyKeys
  dsimp only
  split
  · exact ⟨_, none, .inl rfl, rfl⟩
  · exact ⟨machine.registers, machine.keyWait, .inr rfl, rfl⟩

/-! ## What is reported on the way -/

theorem tick_events (machine : Machine) : ∀ event ∈ machine.tick.2, event = .soundExpired := by
  intro event member
  unfold tick at member
  dsimp only at member
  split at member
  · exact List.mem_singleton.mp member
  · cases member

theorem countCycle_events (machine : Machine) :
    ∀ event ∈ machine.countCycle.2, event = .soundExpired := by
  intro event member
  unfold countCycle at member
  split at member
  · exact tick_events _ event member
  · cases member

theorem load_events (machine : Machine) (program : List UInt8) :
    ∀ event ∈ (machine.load program).events, event = .programLoaded program.length := by
  intro event member
  unfold load at member
  split at member
  · exact List.mem_singleton.mp member
  · cases member

theorem applyKeys_events (machine : Machine) (keys : Keypad) :
    ∀ event ∈ (machine.applyKeys keys).2,
      event = .keysChanged keys ∨ ∃ key x, event = .keyDelivered key x := by
  intro event member
  have changed : event ∈ (if keys = machine.keys then [] else [Event.keysChanged keys]) →
      event = .keysChanged keys := by
    intro member
    split at member
    · cases member
    · exact List.mem_singleton.mp member
  unfold applyKeys at member
  dsimp only at member
  split at member
  · rcases List.mem_append.mp member with early | last
    · exact .inl (changed early)
    · exact .inr ⟨_, _, List.mem_singleton.mp last⟩
  · exact .inl (changed member)

end Chip8.Machine
