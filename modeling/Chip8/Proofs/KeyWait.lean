import Chip8.Proofs.Bounds
import Chip8.Proofs.Keypad

/-!
# Waiting for a key

While a key is awaited a machine stands still: cycles read nothing, and ticks and keys that are all
up leave its program alone. The first keys of which one is down end the wait and write the lowest of
them to the register that waits. Nothing else begins a wait than the instruction for it, and nothing
else ends one than such keys or starting over.
-/
namespace Chip8

/-- Keys of which at least one is down. -/
def Operation.Presses : Operation → Prop
  | .input keys => keys ≠ .empty
  | _ => False

/-- Operations that do not get on with the program: ticks, cycles while a register waits for a key,
and keys if none waits or all of them are up. -/
def Operation.Idle (wait : Option UInt8) : Operation → Prop
  | .step => wait ≠ none
  | .tick => True
  | .input keys => wait = none ∨ keys = .empty
  | _ => False

namespace Machine

/-- A machine that differs at most in its keys, its timers and its divider. -/
def Rests (before after : Machine) : Prop :=
  ∃ keys delay sound divider,
    after = { before with keys := keys, delay := delay, sound := sound, divider := divider }

/-- What a cycle does that goes for the word at an address: it cannot read it, steps over it or
takes it for an instruction. -/
inductive Fetches (memory : Memory) (address : UInt16) : Outcome (Except Fault Cycle) → Prop where
  | unreadable {outcome : Outcome (Except Fault Cycle)} {fault : Fault}
    (unread : memory.readWord address.toNat = .error fault)
    (failed : outcome.result = .error fault) : Fetches memory address outcome
  | unknown {outcome : Outcome (Except Fault Cycle)} {word : UInt16}
    (read : memory.readWord address.toNat = .ok word)
    (decoded : Instruction.ofWord? word = none)
    (skipped : outcome.result = .ok (.decodeFault word)) : Fetches memory address outcome
  | instruction {outcome : Outcome (Except Fault Cycle)} {word : UInt16} {instruction : Instruction}
    (read : memory.readWord address.toNat = .ok word)
    (decoded : Instruction.ofWord? word = some instruction)
    (reported : outcome.events.head? = some (.fetched address word instruction)) :
    Fetches memory address outcome

inductive WaitMove (before : Machine) (operation : Operation) (after : Machine) : Prop where
  | stays (same : after.keyWait = before.keyWait)
  | begins {x : UInt8} (stepped : operation = .step) (free : before.keyWait = none)
    (executed : before.step.result = .ok (.executed (.waitForKey x)))
    (waiting : after.keyWait = some x)
  | ends {x : UInt8} (waiting : before.keyWait = some x) (pressed : operation.Presses)
    (free : after.keyWait = none)
  | startsOver (reset : operation = .reset) (free : after.keyWait = none)

variable {machine before after : Machine} {operation : Operation} {x : UInt8}

/-! ## Standing still -/

theorem Rests.refl (machine : Machine) : Rests machine machine :=
  ⟨machine.keys, machine.delay, machine.sound, machine.divider, rfl⟩

theorem Rests.trans (first : Rests machine before) (second : Rests before after) :
    Rests machine after := by
  obtain ⟨_, _, _, _, rfl⟩ := first
  obtain ⟨keys, delay, sound, divider, rfl⟩ := second
  exact ⟨keys, delay, sound, divider, rfl⟩

theorem Rests.keyWait (rests : Rests before after) : after.keyWait = before.keyWait := by
  obtain ⟨_, _, _, _, rfl⟩ := rests
  rfl

theorem Rests.registers (rests : Rests before after) : after.registers = before.registers := by
  obtain ⟨_, _, _, _, rfl⟩ := rests
  rfl

theorem Rests.memory (rests : Rests before after) : after.memory = before.memory := by
  obtain ⟨_, _, _, _, rfl⟩ := rests
  rfl

theorem Rests.counter (rests : Rests before after) : after.counter = before.counter := by
  obtain ⟨_, _, _, _, rfl⟩ := rests
  rfl

theorem tick_rests (machine : Machine) : Rests machine machine.tick.1 :=
  ⟨machine.keys, _, _, machine.divider, rfl⟩

theorem countCycle_rests (machine : Machine) : Rests machine machine.countCycle.1 := by
  obtain ⟨delay, sound, divider, same⟩ := countCycle_eq machine
  exact ⟨machine.keys, delay, sound, divider, same⟩

theorem step_rests (waiting : machine.keyWait ≠ none) : Rests machine machine.step.machine := by
  obtain ⟨x, waiting⟩ := Option.ne_none_iff_exists'.mp waiting
  rw [step_of_waiting waiting]
  exact countCycle_rests machine

/-- Keys that no register waits for, or that are all up, are remembered and nothing else. -/
theorem applyKeys_of_idle {keys : Keypad} (idle : machine.keyWait = none ∨ keys = .empty) :
    machine.applyKeys keys =
      ({ machine with keys := keys }, if keys = machine.keys then [] else [.keysChanged keys]) := by
  unfold applyKeys
  dsimp only
  split
  case h_1 waiting lowest =>
    rcases idle with free | rfl
    · rw [waiting] at free
      cases free
    · rw [Keypad.lowest?_eq_none_iff.mpr rfl] at lowest
      cases lowest
  case h_2 => rfl

theorem apply_rests (idle : operation.Idle machine.keyWait) :
    Rests machine (machine.apply operation).machine := by
  cases operation with
  | load _ | reset => exact idle.elim
  | step => exact step_rests idle
  | tick => exact tick_rests machine
  | input keys =>
    show Rests machine (machine.applyKeys keys).1
    rw [applyKeys_of_idle idle]
    exact ⟨keys, machine.delay, machine.sound, machine.divider, rfl⟩

/-- As long as only such operations come a machine stands still. -/
theorem run_rests (operations : List Operation)
    (idle : ∀ operation ∈ operations, operation.Idle machine.keyWait) :
    Rests machine (machine.run operations) := by
  induction operations generalizing machine with
  | nil => exact .refl machine
  | cons operation rest ih =>
    have first := apply_rests (idle operation (by simp))
    refine first.trans (ih fun other member => ?_)
    rw [first.keyWait]
    exact idle other (List.mem_cons_of_mem _ member)

/-- A machine that stands still reports other keys and beeps, and nothing else. -/
theorem apply_idle_events (idle : operation.Idle machine.keyWait) :
    ∀ event ∈ (machine.apply operation).events,
      event = .soundExpired ∨ ∃ keys, event = .keysChanged keys := by
  intro event member
  cases operation with
  | load _ | reset => exact idle.elim
  | step =>
    obtain ⟨x, waiting⟩ := Option.ne_none_iff_exists'.mp idle
    have events : (machine.apply .step).events = machine.countCycle.2 :=
      congrArg Outcome.events (step_of_waiting waiting)
    rw [events] at member
    exact .inl (countCycle_events machine event member)
  | tick => exact .inl (tick_events machine event member)
  | input keys =>
    have events : (machine.apply (.input keys)).events = (machine.applyKeys keys).2 := rfl
    rw [events, applyKeys_of_idle idle] at member
    dsimp only at member
    split at member
    · cases member
    · exact .inr ⟨keys, List.mem_singleton.mp member⟩

theorem run_idle_events (operations : List Operation)
    (idle : ∀ operation ∈ operations, operation.Idle machine.keyWait) :
    ∀ event ∈ machine.history operations,
      event = .soundExpired ∨ ∃ keys, event = .keysChanged keys := by
  induction operations generalizing machine with
  | nil => exact fun event member => nomatch member
  | cons operation rest ih =>
    intro event member
    have now := idle operation (by simp)
    rcases List.mem_append.mp member with early | late
    · exact apply_idle_events now event early
    · refine ih (fun other later => ?_) event late
      rw [(apply_rests now).keyWait]
      exact idle other (List.mem_cons_of_mem _ later)

/-! ## The end of a wait -/

/-- Keys of which one is down, given to a machine that waits. -/
theorem applyKeys_of_lowest {keys : Keypad} {key : UInt8} (waiting : machine.keyWait = some x)
    (lowest : keys.IsLowest key) :
    (machine.applyKeys keys).1 = { machine with
      keys := keys, registers := machine.registers.set x key, keyWait := none } := by
  have found := Keypad.lowest?_eq_some_iff.mpr lowest
  simp only [applyKeys, waiting, found]
  rfl

theorem exists_lowest {keys : Keypad} (some : keys ≠ .empty) : ∃ key, keys.IsLowest key := by
  cases found : keys.lowest? with
  | none => exact absurd (Keypad.lowest?_eq_none_iff.mp found) some
  | some key => exact ⟨key, Keypad.lowest?_eq_some_iff.mp found⟩

/-- The first keys of which one is down: they end the wait and write the lowest of them, and all
else stays. -/
theorem applyKeys_ends {keys : Keypad} {key : UInt8} (small : x.toNat < 16)
    (waiting : machine.keyWait = some x) (lowest : keys.IsLowest key) :
    ∃ registers,
      (machine.applyKeys keys).1 =
        { machine with keys := keys, registers := registers, keyWait := none } ∧
      registers.get x = key ∧
      ∀ y, y.toNat < 16 → y ≠ x → registers.get y = machine.registers.get y := by
  refine ⟨machine.registers.set x key, applyKeys_of_lowest waiting lowest, ?_, ?_⟩
  · rw [Registers.get_set _ _ small small, if_pos rfl]
  · intro y inside other
    rw [Registers.get_set _ _ small inside, if_neg other]

/-- A cycle of a machine that does not wait goes for the word at the program counter. -/
theorem step_fetches (free : machine.keyWait = none) :
    Fetches machine.memory machine.counter machine.step := by
  have way := step_cases machine
  generalize machine.step = outcome at way ⊢
  cases way with
  | waits waiting =>
    rw [free] at waiting
    cases waiting
  | unreadable _ unread => exact .unreadable unread rfl
  | skips _ read unknown => exact .unknown read unknown rfl
  | faults _ read decoded _ | executes _ read decoded _ => exact .instruction read decoded rfl

/-! ## How a wait begins -/

/-- What an instruction that waits for a key leaves. -/
theorem step_waitForKey (executed : machine.step.result = .ok (.executed (.waitForKey x))) :
    machine.keyWait = none ∧ machine.step.machine.keyWait = some x ∧
      machine.step.machine.keys = machine.keys ∧
      machine.step.machine.counter.toNat = machine.counter.toNat + 2 := by
  have way := step_cases machine
  generalize machine.step = outcome at way executed ⊢
  cases way with
  | executes free read decoded done =>
    cases executed
    cases done
    have readable := readable_of_readWord read
    obtain ⟨delay, sound, divider, same⟩ := countCycle_eq
      (machine.moved ⟨{ machine with keyWait := some x }, .next, [.keyAwaited x]⟩)
    refine ⟨free, ?_, ?_, ?_⟩
    · rw [counted, same]
      rfl
    · rw [counted, same]
      rfl
    · rw [counted, same]
      simp only [moved, Flow.follow, UInt16.toNat_add, UInt16.reduceToNat]
      omega
  | _ => cases executed

/-- An instruction begins a wait only if it is the one that waits for a key. -/
theorem step_waitMove (machine : Machine) : WaitMove machine .step machine.step.machine := by
  have way := step_cases machine
  generalize stepped : machine.step = outcome at way
  cases way with
  | waits _ => exact .stays (countCycle_keyWait machine)
  | unreadable _ _ | faults _ _ _ _ => exact .stays rfl
  | skips _ _ _ => exact .stays (countCycle_keyWait _)
  | executes free read decoded done =>
    rename_i word instruction effect
    by_cases other : instruction.part? = some .keyWait
    · cases instruction with
      | waitForKey x =>
        have executed := congrArg Outcome.result stepped
        have waiting := (step_waitForKey executed).2.1
        rw [stepped] at waiting
        exact .begins rfl free executed waiting
      | _ => cases other
    · have same : effect.machine.keyWait = machine.keyWait := execute_same done .keyWait other
      exact .stays ((countCycle_keyWait _).trans same)

theorem applyKeys_waitMove (machine : Machine) (keys : Keypad) :
    WaitMove machine (.input keys) (machine.applyKeys keys).1 := by
  by_cases idle : machine.keyWait = none ∨ keys = .empty
  · rw [applyKeys_of_idle idle]
    exact .stays rfl
  · obtain ⟨waits, pressed⟩ := not_or.mp idle
    obtain ⟨x, waiting⟩ := Option.ne_none_iff_exists'.mp waits
    obtain ⟨key, lowest⟩ := exists_lowest pressed
    refine .ends waiting pressed ?_
    rw [applyKeys_of_lowest waiting lowest]

/-- Every operation leaves the wait alone, begins or ends it, or starts over. -/
theorem apply_waitMove (machine : Machine) (operation : Operation) :
    WaitMove machine operation (machine.apply operation).machine := by
  cases operation with
  | load program =>
    obtain ⟨memory, same⟩ := load_eq machine program
    refine .stays ?_
    show (machine.load program).machine.keyWait = machine.keyWait
    rw [same]
  | step => exact step_waitMove machine
  | tick => exact .stays rfl
  | input keys => exact applyKeys_waitMove machine keys
  | reset => exact .startsOver rfl rfl

/-! ## Since the wait began -/

/-- Until keys are pressed or a machine starts over it waits and its program counter stays. -/
theorem apply_waiting (waiting : machine.keyWait = some x) (kept : operation ≠ .reset)
    (up : ¬ operation.Presses) :
    (machine.apply operation).machine.keyWait = some x ∧
      (machine.apply operation).machine.counter = machine.counter := by
  cases operation with
  | load program =>
    obtain ⟨memory, same⟩ := load_eq machine program
    show (machine.load program).machine.keyWait = some x ∧
      (machine.load program).machine.counter = machine.counter
    rw [same]
    exact ⟨waiting, rfl⟩
  | step =>
    show machine.step.machine.keyWait = some x ∧ machine.step.machine.counter = machine.counter
    rw [step_of_waiting waiting]
    exact ⟨(countCycle_keyWait machine).trans waiting, countCycle_counter machine⟩
  | tick => exact ⟨waiting, rfl⟩
  | input keys =>
    have idle : keys = .empty := Classical.not_not.mp up
    show (machine.applyKeys keys).1.keyWait = some x ∧
      (machine.applyKeys keys).1.counter = machine.counter
    rw [applyKeys_of_idle (.inr idle)]
    exact ⟨waiting, rfl⟩
  | reset => exact absurd rfl kept

theorem run_waiting (operations : List Operation) (waiting : machine.keyWait = some x)
    (kept : ∀ operation ∈ operations, operation ≠ .reset ∧ ¬ operation.Presses) :
    (machine.run operations).keyWait = some x ∧
      (machine.run operations).counter = machine.counter := by
  induction operations generalizing machine with
  | nil => exact ⟨waiting, rfl⟩
  | cons operation rest ih =>
    obtain ⟨other, up⟩ := kept operation (by simp)
    obtain ⟨still, same⟩ := apply_waiting waiting other up
    obtain ⟨wait, counter⟩ :=
      ih still fun later member => kept later (List.mem_cons_of_mem _ member)
    exact ⟨wait, counter.trans same⟩

/-- A wait of a machine: the machine that began it, and what has come since. -/
structure WaitingSince (start : Machine) (since : List Operation) (machine : Machine) (x : UInt8) :
    Prop where
  reachable : Reachable start
  executed : start.step.result = .ok (.executed (.waitForKey x))
  kept : ∀ operation ∈ since, operation ≠ .reset ∧ ¬ operation.Presses
  now : machine = start.step.machine.run since

/-- A wait goes on with an operation that is no end of it. -/
theorem WaitingSince.next {start : Machine} {since : List Operation}
    (waits : WaitingSince start since machine x)
    (still : (machine.apply operation).machine.keyWait = some x) :
    WaitingSince start (since ++ [operation]) (machine.apply operation).machine x := by
  obtain ⟨_, begun, _, _⟩ := step_waitForKey waits.executed
  obtain ⟨waiting, _⟩ := run_waiting since begun waits.kept
  rw [← waits.now] at waiting
  refine ⟨waits.reachable, waits.executed, fun other member => ?_, ?_⟩
  · rcases List.mem_append.mp member with early | late
    · exact waits.kept other early
    · cases List.mem_singleton.mp late
      have free : ∀ ended : (machine.apply operation).machine.keyWait = none, False := fun ended =>
        nomatch still.symm.trans ended
      constructor
      · rintro rfl
        exact free rfl
      · intro pressed
        cases operation with
        | input keys =>
          obtain ⟨key, lowest⟩ := exists_lowest pressed
          apply free
          show (machine.applyKeys keys).1.keyWait = none
          rw [applyKeys_of_lowest waiting lowest]
        | _ => exact pressed
  · rw [run_append, ← waits.now]
    rfl

/-- Every wait of a reachable machine has begun somewhere. -/
theorem Reachable.waitingSince (reachable : Reachable machine)
    (waiting : machine.keyWait = some x) :
    ∃ start since, WaitingSince start since machine x := by
  induction reachable generalizing x with
  | start rate random => cases waiting
  | @next machine operation reachable ih =>
    cases apply_waitMove machine operation with
    | stays same =>
      obtain ⟨start, since, waits⟩ := ih (same.symm.trans waiting)
      exact ⟨start, since ++ [operation], waits.next waiting⟩
    | begins stepped free executed begun =>
      subst stepped
      cases begun.symm.trans waiting
      exact ⟨machine, [], reachable, executed, (fun _ member => nomatch member), rfl⟩
    | ends _ _ free | startsOver _ free => cases free.symm.trans waiting

/-- The whole of a wait. It was begun by an instruction two bytes before the program counter. As
long as only cycles, ticks and keys that are all up come, cycles wait, the machine stands still and
no more is reported than such keys and beeps. The first other keys write the lowest of them to the
register, which ends the wait; ticks and keys that follow change no register; and the next cycle
goes for the word at the program counter, which has stayed. In all machines the wait changes in just
these ways, or with starting over; and the keys that were down when it began do not end it. -/
theorem key_wait_protocol (reachable : Reachable machine) (waiting : machine.keyWait = some x) :
    (∃ start since, WaitingSince start since machine x ∧
      machine.counter.toNat = start.counter.toNat + 2) ∧
    (∀ silent, (∀ operation ∈ silent, operation.Idle (some x)) →
      Rests machine (machine.run silent) ∧
      (machine.run silent).step.result = .ok .awaitingKey ∧
      (∀ event ∈ machine.history silent,
        event = .soundExpired ∨ ∃ keys, event = .keysChanged keys) ∧
      ∀ keys, keys ≠ .empty → ∃ key released registers, keys.IsLowest key ∧
        released = ((machine.run silent).apply (.input keys)).machine ∧
        released =
          { machine.run silent with keys := keys, registers := registers, keyWait := none } ∧
        registers.get x = key ∧
        (∀ y, y.toNat < 16 → y ≠ x → registers.get y = machine.registers.get y) ∧
        ∀ later, (∀ operation ∈ later, operation.Idle none) →
          Rests released (released.run later) ∧
          Fetches machine.memory machine.counter (released.run later).step) ∧
    (∀ before operation, WaitMove before operation (before.apply operation).machine) ∧
    ∀ (start : Machine) (y : UInt8), start.step.result = .ok (.executed (.waitForKey y)) →
      start.step.machine.keys = start.keys ∧
      ∀ operations, (∀ operation ∈ operations, operation ≠ .reset ∧ ¬ operation.Presses) →
        (start.step.machine.run operations).keyWait = some y := by
  refine ⟨?_, fun silent idle => ?_, apply_waitMove, fun start y executed => ?_⟩
  · obtain ⟨start, since, waits⟩ := reachable.waitingSince waiting
    obtain ⟨_, begun, _, behind⟩ := step_waitForKey waits.executed
    obtain ⟨_, same⟩ := run_waiting since begun waits.kept
    refine ⟨start, since, waits, ?_⟩
    rw [waits.now, same, behind]
  · rw [← waiting] at idle
    have rests := run_rests silent idle
    have still : (machine.run silent).keyWait = some x := rests.keyWait.trans waiting
    refine ⟨rests, ?_, run_idle_events silent idle, fun keys pressed => ?_⟩
    · rw [step_of_waiting still]
      rfl
    · obtain ⟨key, lowest⟩ := exists_lowest pressed
      have small := reachable.bounded.keyWait_lt x waiting
      obtain ⟨registers, ended, written, others⟩ := applyKeys_ends small still lowest
      rw [rests.registers] at others
      refine ⟨key, _, registers, lowest, rfl, ended, written, others, fun later idle => ?_⟩
      have free : ((machine.run silent).apply (.input keys)).machine.keyWait = none :=
        congrArg Machine.keyWait ended
      have resting := run_rests later (free.symm ▸ idle)
      refine ⟨resting, ?_⟩
      have memory := resting.memory.trans ((congrArg Machine.memory ended).trans rests.memory)
      have counter := resting.counter.trans ((congrArg Machine.counter ended).trans rests.counter)
      rw [← memory, ← counter]
      exact step_fetches (resting.keyWait.trans free)
  · obtain ⟨_, begun, held, _⟩ := step_waitForKey executed
    exact ⟨held, fun operations kept => (run_waiting operations begun kept).1⟩

/-- A machine whose program has just asked for a key in `V3`. -/
def askingForKey : Machine :=
  (powerOn 500 (.constant 0)).run [.load [0xF3, 0x0A], .step]

theorem askingForKey_released : Reachable askingForKey ∧ askingForKey.keyWait = some 3 ∧
    (askingForKey.run [.step, .tick, .input .empty]).step.result = .ok .awaitingKey ∧
    ((askingForKey.run [.step, .tick, .input .empty]).apply (.input ⟨0b1010⟩)).machine.reg 3 = 1 := by
  have reachable : Reachable askingForKey :=
    Reachable.run (.start 500 (.constant 0)) [.load [0xF3, 0x0A], .step]
  have waiting : askingForKey.keyWait = some 3 := by decide +kernel
  have idle : ∀ operation ∈ [.step, .tick, .input .empty], Operation.Idle (some 3) operation := by
    simp [Operation.Idle]
  obtain ⟨_, frozen, _, _⟩ := key_wait_protocol reachable waiting
  obtain ⟨_, awaits, _, releases⟩ := frozen [.step, .tick, .input .empty] idle
  obtain ⟨key, released, registers, lowest, same, ended, written, _⟩ :=
    releases ⟨0b1010⟩ (by decide)
  have found : key = 1 := by
    have first : (⟨0b1010⟩ : Keypad).lowest? = some 1 := by decide +kernel
    rw [Keypad.lowest?_eq_some_iff.mpr lowest] at first
    exact Option.some.inj first
  refine ⟨reachable, waiting, awaits, ?_⟩
  rw [← same, ended]
  exact written.trans found

end Machine
end Chip8
