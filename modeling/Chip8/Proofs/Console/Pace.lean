import Chip8.Proofs.Console.Cycles
import Chip8.Proofs.Execution
import Chip8.Proofs.Timing

/-!
# When catching up ends

Each cycle brings a console one period closer to the clock. While a period takes time there is an
end to that, whatever the program does. At a rate above the top rate a period takes no time: the
clock is never reached, and a console that cannot halt runs cycles forever.
-/
namespace Chip8

namespace Console

def CatchUp.behind (state : CatchUp) (now : Nat) : Nat :=
  now - state.console.lastCycle

section Loop

variable {period now : Nat} {state : CatchUp}

/-- A cycle that is due takes off a whole period of what a console is behind. -/
theorem advance_behind (due : state.console.isDue period now = true) :
    (state.advance period).behind now + period = state.behind now := by
  obtain ⟨_, late⟩ := isDue_iff.mp due
  rw [CatchUp.behind, CatchUp.behind, advance_lastCycle]
  omega

/-- There is an answer as soon as there is patience for all the periods that a console is behind. -/
theorem catchUp_isSome (patience : Nat) (enough : state.behind now < (patience + 1) * period) :
    (catchUp period now patience state).isSome := by
  induction patience generalizing state with
  | zero =>
    have idle : state.console.isDue period now = false := by
      rw [← Bool.not_eq_true, isDue_iff]
      rintro ⟨_, late⟩
      rw [Nat.zero_add, Nat.one_mul] at enough
      exact absurd late (Nat.not_le.mpr enough)
    rw [catchUp_of_idle idle]
    rfl
  | succ patience ih =>
    cases due : state.console.isDue period now with
    | false =>
      rw [catchUp_of_idle due]
      rfl
    | true =>
      rw [catchUp_succ_of_due due]
      apply ih
      have closer := advance_behind due
      rw [Nat.succ_mul] at enough
      omega

/-- When periods take no time there is an answer exactly when the console halts on the way. -/
theorem catchUp_zero_isSome_iff (patience : Nat) :
    (catchUp 0 now patience state).isSome ↔ (state.console.stretch patience).console.halted := by
  induction patience generalizing state with
  | zero =>
    cases halted : state.console.halted <;> simp [catchUp, isDue, stretch, halted]
  | succ patience ih =>
    cases halted : state.console.halted with
    | true =>
      have idle : state.console.isDue 0 now = false := by simp [isDue, halted]
      rw [catchUp_of_idle idle, stretch_of_halted halted]
      simp [halted]
    | false =>
      -- no time at all has always passed
      have due : state.console.isDue 0 now = true := by simp [isDue, halted]
      rw [catchUp_succ_of_due due, ih, stretch_succ halted]
      rfl

end Loop

/-! ## The program may run -/

variable {console : Console} {now patience : Nat}

theorem aboutToWait_isSome (console : Console) (patience now : Nat) :
    (console.aboutToWait patience now).isSome = (console.catchUpNow patience now).isSome := by
  simp [aboutToWait]

theorem period_pos_iff (console : Console) :
    0 < console.period ↔ console.machine.rate ≤ Timing.topRate :=
  Timing.cycleTime_pos_iff _

/-- What a cycle takes off what a console is behind is something up to the top rate. -/
theorem advance_closer (paced : console.machine.rate ≤ Timing.topRate) {state : CatchUp}
    (due : state.console.isDue console.period now = true) :
    (state.advance console.period).behind now < state.behind now := by
  have closer := advance_behind due
  have takes := (period_pos_iff console).mpr paced
  omega

theorem aboutToWait_isSome_of_paced (paced : console.machine.rate ≤ Timing.topRate)
    (enough : (now - console.lastCycle) / console.period ≤ patience) :
    (console.aboutToWait patience now).isSome := by
  rw [aboutToWait_isSome]
  rcases resting_or_running console with resting | ⟨free, running⟩
  · rw [catchUpNow_of_resting resting]
    rfl
  · rw [catchUpNow_of_running free running]
    apply catchUp_isSome
    have takes := (period_pos_iff console).mpr paced
    exact (Nat.div_lt_iff_lt_mul takes).mp (Nat.lt_succ_of_le enough)

/-- No more cycles are run than there are periods to catch up with. -/
theorem catchUpNow_cycles_le (paced : console.machine.rate ≤ Timing.topRate) {caught : CatchUp}
    (answer : console.catchUpNow patience now = some caught) :
    caught.cycles ≤ (now - console.lastCycle) / console.period := by
  rcases resting_or_running console with resting | ⟨free, running⟩
  · rw [catchUpNow_of_resting resting, Option.some.injEq] at answer
    exact answer ▸ Nat.zero_le _
  · rw [catchUpNow_of_running free running] at answer
    obtain ⟨n, ran, _⟩ := catchUp_ran answer
    have takes : 0 < console.period := (period_pos_iff console).mpr paced
    have count : caught.cycles = n := ran.cycles_eq.trans (Nat.zero_add n)
    rw [count, Nat.le_div_iff_mul_le takes]
    rcases Nat.eq_zero_or_pos (n * console.period) with none | some
    · rw [none]
      exact Nat.zero_le _
    · exact Nat.le_sub_of_add_le' (ran.in_time some)

/-- After catching up no cycle is due. -/
theorem catchUpNow_idle {caught : CatchUp} (free : console.stepThrough = false)
    (answer : console.catchUpNow patience now = some caught) :
    caught.console.isDue console.period now = false := by
  cases halted : console.halted with
  | true =>
    rw [catchUpNow_of_resting (.inr halted), Option.some.injEq] at answer
    rw [← answer, isDue, halted]
    rfl
  | false =>
    rw [catchUpNow_of_running free halted] at answer
    obtain ⟨_, _, idle⟩ := catchUp_ran answer
    exact idle

/-- Above the top rate there is an answer only where no cycles are run, or where they end by
themselves. -/
theorem aboutToWait_isSome_iff_of_fast (fast : Timing.topRate < console.machine.rate) :
    (∃ patience, (console.aboutToWait patience now).isSome) ↔
      console.stepThrough = true ∨ console.halted = true ∨
        ∃ n, (console.poll.1.stretch n).console.halted = true := by
  simp only [aboutToWait_isSome]
  rcases resting_or_running console with resting | ⟨free, running⟩
  · rw [← or_assoc]
    refine iff_of_true ⟨0, ?_⟩ (.inl resting)
    rw [catchUpNow_of_resting resting]
    rfl
  · have still : console.period = 0 := by
      apply Nat.eq_zero_of_not_pos
      rw [period_pos_iff]
      exact UInt32.not_le.mpr fast
    simp only [catchUpNow_of_running free running, still, catchUp_zero_isSome_iff, free, running,
      Bool.false_eq_true, false_or]
    rfl

/-- Up to the top rate each cycle that is due brings a console closer to the clock, so that catching
up ends, with no cycle due any more, after no more cycles than there are periods to catch up with.
Above the top rate it ends only if the program does. -/
theorem aboutToWait_ends (console : Console) (now : Nat) :
    (console.machine.rate ≤ Timing.topRate →
      (∀ state : CatchUp, state.console.isDue console.period now = true →
        (state.advance console.period).behind now < state.behind now) ∧
      (∀ patience, (now - console.lastCycle) / console.period ≤ patience →
        (console.aboutToWait patience now).isSome) ∧
      ∀ patience caught, console.catchUpNow patience now = some caught →
        caught.cycles ≤ (now - console.lastCycle) / console.period ∧
        (console.stepThrough = false → caught.console.isDue console.period now = false)) ∧
    (Timing.topRate < console.machine.rate →
      ((∃ patience, (console.aboutToWait patience now).isSome) ↔
        console.stepThrough = true ∨ console.halted = true ∨
          ∃ n, (console.poll.1.stretch n).console.halted = true)) := by
  refine ⟨fun paced => ⟨?closer, ?ends, ?bound⟩, aboutToWait_isSome_iff_of_fast⟩
  case closer => exact fun state => advance_closer paced
  case ends => exact fun patience => aboutToWait_isSome_of_paced paced
  case bound =>
    intro patience caught answer
    exact ⟨catchUpNow_cycles_le paced answer, fun free => catchUpNow_idle free answer⟩

end Console

/-! ## A program that does not end -/

/-- A machine at an instruction that jumps to itself. -/
structure Machine.Spins (machine : Machine) : Prop where
  free : machine.keyWait = none
  jumps : ∃ word, machine.memory.readWord machine.counter.toNat = .ok word ∧
    Instruction.ofWord? word = some (.jump machine.counter)

namespace Machine

variable {machine : Machine}

/-- What the jump reads is all that matters. -/
theorem Spins.of_same {other : Machine} (spins : machine.Spins)
    (memory : other.memory = machine.memory) (counter : other.counter = machine.counter)
    (free : other.keyWait = none) : other.Spins := by
  refine ⟨free, ?_⟩
  rw [memory, counter]
  exact spins.jumps

theorem Spins.step (spins : machine.Spins) :
    machine.step.result = .ok (.executed (.jump machine.counter)) ∧ machine.step.machine.Spins := by
  obtain ⟨word, read, decoded⟩ := spins.jumps
  have jumped : machine.moved (go machine (.jump machine.counter)) = machine := rfl
  rw [step_of_executes spins.free read decoded rfl, jumped, counted]
  refine ⟨rfl, spins.of_same (countCycle_memory machine) (countCycle_counter machine) ?_⟩
  exact (countCycle_keyWait machine).trans spins.free

theorem Spins.applyKeys (spins : machine.Spins) (keys : Keypad) :
    (machine.applyKeys keys).1.Spins := by
  obtain ⟨_, keyWait, ended, same⟩ := applyKeys_eq machine keys
  have free : keyWait = none := ended.elim id (·.trans spins.free)
  rw [same]
  exact spins.of_same rfl rfl free

end Machine

namespace Console

variable {console : Console}

theorem runCycle_of_spins (spins : console.machine.Spins) :
    console.runCycle.1.machine.Spins ∧ console.runCycle.1.halted = console.halted := by
  obtain ⟨result, after⟩ := spins.step
  simp only [runCycle, result]
  exact ⟨after, rfl⟩

/-- A machine that jumps in place never halts its console. -/
theorem stretch_of_spins (spins : console.machine.Spins) (n : Nat) :
    (console.stretch n).console.halted = console.halted := by
  induction n generalizing console with
  | zero => rfl
  | succ n ih =>
    cases halted : console.halted with
    | true => rw [stretch_of_halted halted, halted]
    | false =>
      obtain ⟨after, same⟩ := runCycle_of_spins spins
      rw [stretch_succ halted]
      exact (ih after).trans (same.trans halted)

theorem aboutToWait_of_spins {console : Console} (fast : Timing.topRate < console.machine.rate)
    (spins : console.machine.Spins) (free : console.stepThrough = false)
    (running : console.halted = false) (patience now : Nat) :
    console.aboutToWait patience now = none := by
  rw [← Option.not_isSome_iff_eq_none]
  intro answers
  rcases (aboutToWait_isSome_iff_of_fast fast).mp ⟨patience, answers⟩ with byHand | halted | ends
  · simp [free] at byHand
  · simp [running] at halted
  · obtain ⟨n, ends⟩ := ends
    rw [stretch_of_spins (spins.applyKeys _)] at ends
    simp [poll, absorb, running] at ends

def running (rate : UInt32) (rom : List UInt8) : Console :=
  (build rate 1 (.constant 0) rom false).1.loadRom.1

/-- A console whose program jumps in place, far above the top rate. -/
def jumpingInPlace : Console := running 3000000000 [0x12, 0x00]

theorem jumpingInPlace_spins : jumpingInPlace.machine.Spins where
  free := by decide +kernel
  jumps := by
    refine ⟨0x1200, Machine.ok_of_toOption ?_, ?_⟩ <;> decide +kernel

/-- A console in good order that catches up forever, though it is not behind the clock at all. -/
theorem jumpingInPlace_never_answers :
    jumpingInPlace.stepThrough = false ∧ jumpingInPlace.halted = false ∧
      jumpingInPlace.lastCycle = 0 ∧
      ¬ ∃ patience, (jumpingInPlace.aboutToWait patience 0).isSome := by
  have fast : Timing.topRate < jumpingInPlace.machine.rate := by decide +kernel
  have free : jumpingInPlace.stepThrough = false := by decide +kernel
  have going : jumpingInPlace.halted = false := by decide +kernel
  refine ⟨free, going, by decide +kernel, ?_⟩
  rintro ⟨patience, answers⟩
  rw [aboutToWait_of_spins fast jumpingInPlace_spins free going] at answers
  cases answers

/-- The same program at five hundred cycles a second catches up with a second; and a program that
ends is run to its end at any rate. -/
theorem running_answers :
    (running 500 [0x12, 0x00]).machine.rate ≤ Timing.topRate ∧
      ((running 500 [0x12, 0x00]).aboutToWait 500 1000000000).isSome ∧
      Timing.topRate < (running 3000000000 [0x60, 0x05]).machine.rate ∧
      ∃ patience, ((running 3000000000 [0x60, 0x05]).aboutToWait patience 0).isSome := by
  have paced : (running 500 [0x12, 0x00]).machine.rate ≤ Timing.topRate := by decide +kernel
  have fast : Timing.topRate < (running 3000000000 [0x60, 0x05]).machine.rate := by decide +kernel
  have enough : (1000000000 - (running 500 [0x12, 0x00]).lastCycle) /
      (running 500 [0x12, 0x00]).period ≤ 500 := by decide +kernel
  have ends : ((running 3000000000 [0x60, 0x05]).poll.1.stretch 2).console.halted = true := by
    decide +kernel
  obtain ⟨_, answers, _⟩ := (aboutToWait_ends (running 500 [0x12, 0x00]) 1000000000).1 paced
  obtain ⟨_, some⟩ := (aboutToWait_ends (running 3000000000 [0x60, 0x05]) 0).2 fast
  exact ⟨paced, answers 500 enough, fast, some (.inr (.inr ⟨2, ends⟩))⟩

end Console
end Chip8
