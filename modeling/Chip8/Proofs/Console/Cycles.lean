import Chip8.Console.Windowed
import Chip8.Proofs.Bounds

/-!
# Cycles of a console

A cycle of a console neither reads nor moves its clock, so what cycles one after another come to can
be said without it. Catching up with the clock is such a stretch of cycles, as many as are due, and
beside the stretch it only moves the clock by a period for each of its cycles.
-/
namespace Chip8

def Console.atTime (console : Console) (time : Nat) : Console :=
  { console with lastCycle := time }

def Reaction.atTime (reaction : Reaction) (time : Nat) : Reaction :=
  { reaction with console := reaction.console.atTime time }

namespace Console

@[simp] theorem atTime_atTime (console : Console) (first second : Nat) :
    (console.atTime first).atTime second = console.atTime second := rfl

@[simp] theorem atTime_lastCycle (console : Console) : console.atTime console.lastCycle = console :=
  rfl

@[simp] theorem lastCycle_atTime (console : Console) (time : Nat) :
    (console.atTime time).lastCycle = time := rfl

@[simp] theorem atTime_machine (console : Console) (time : Nat) :
    (console.atTime time).machine = console.machine := rfl

@[simp] theorem atTime_display (console : Console) (time : Nat) :
    (console.atTime time).display = console.display := rfl

@[simp] theorem atTime_stepThrough (console : Console) (time : Nat) :
    (console.atTime time).stepThrough = console.stepThrough := rfl

@[simp] theorem atTime_halted (console : Console) (time : Nat) :
    (console.atTime time).halted = console.halted := rfl

/-! ## One cycle -/

/-- The console after a cycle is the one before it with what its machine did, and perhaps halted. -/
theorem runCycle_eq (console : Console) : ∃ halted,
    console.runCycle.1 =
      { console.absorb console.machine.step.machine console.machine.step.events with
        halted := halted } := by
  unfold runCycle
  dsimp only
  split
  · split
    · exact ⟨true, rfl⟩
    · exact ⟨console.halted, rfl⟩
  · exact ⟨console.halted, rfl⟩
  · exact ⟨console.halted, rfl⟩
  · exact ⟨true, rfl⟩

theorem runCycle_lastCycle (console : Console) :
    console.runCycle.1.lastCycle = console.lastCycle := by
  obtain ⟨halted, after⟩ := runCycle_eq console
  rw [after]
  rfl

/-- A cycle at another time is the same cycle. -/
theorem runCycle_atTime (console : Console) (time : Nat) :
    (console.atTime time).runCycle = (console.runCycle.1.atTime time, console.runCycle.2) := by
  unfold runCycle
  dsimp only [atTime]
  split
  · split <;> rfl
  · rfl
  · rfl
  · rfl

/-! ## Cycles one after another -/

/-- What cycles one after another come to: the console, their results and what was reported. -/
structure Stretch where
  console : Console
  results : List (Except Fault Cycle)
  notices : List Notice

/-- Runs so many cycles, and none once the console has halted. -/
def stretch (console : Console) : Nat → Stretch
  | 0 => ⟨console, [], []⟩
  | n + 1 =>
    if console.halted then ⟨console, [], []⟩
    else
      let rest := console.runCycle.1.stretch n
      ⟨rest.console, console.machine.step.result :: rest.results,
        console.runCycle.2 ++ rest.notices⟩

variable {console : Console} {n : Nat}

theorem stretch_of_halted (halted : console.halted = true) (n : Nat) :
    console.stretch n = ⟨console, [], []⟩ := by
  cases n with
  | zero => rfl
  | succ n => simp [stretch, halted]

theorem stretch_succ (running : console.halted = false) (n : Nat) :
    console.stretch (n + 1) =
      ⟨(console.runCycle.1.stretch n).console,
        console.machine.step.result :: (console.runCycle.1.stretch n).results,
        console.runCycle.2 ++ (console.runCycle.1.stretch n).notices⟩ := by
  simp [stretch, running]

/-- What each cycle keeps of a console and the results so far, cycles one after another keep. -/
theorem stretch_induction {P : Console → List (Except Fault Cycle) → Prop}
    (cycle : ∀ console results, console.halted = false → P console results →
      P console.runCycle.1 (results ++ [console.machine.step.result]))
    (before : P console []) (n : Nat) :
    P (console.stretch n).console (console.stretch n).results := by
  suffices onwards : ∀ console results, P console results →
      P (console.stretch n).console (results ++ (console.stretch n).results) from
    onwards console [] before
  clear before
  induction n with
  | zero =>
    intro console results before
    simpa [stretch] using before
  | succ n ih =>
    intro console results before
    cases running : console.halted with
    | true => simpa [stretch_of_halted running] using before
    | false =>
      have later := ih _ _ (cycle console results running before)
      rw [List.append_assoc] at later
      rw [stretch_succ running]
      exact later

/-- The same cycles at another time. -/
theorem stretch_atTime (console : Console) (time n : Nat) :
    (console.atTime time).stretch n =
      { console.stretch n with console := (console.stretch n).console.atTime time } := by
  induction n generalizing console with
  | zero => rfl
  | succ n ih =>
    cases running : console.halted with
    | true =>
      have still : (console.atTime time).halted = true := running
      rw [stretch_of_halted running, stretch_of_halted still]
    | false =>
      have still : (console.atTime time).halted = false := running
      rw [stretch_succ running, stretch_succ still, runCycle_atTime, ih]
      rfl

/-! ## Catching up -/

/-- A cycle that is due is a cycle, and it takes up its period. -/
theorem advance_console (state : CatchUp) (period : Nat) :
    (state.advance period).console =
      state.console.runCycle.1.atTime (state.console.lastCycle + period) := by
  simp only [CatchUp.advance, atTime, runCycle_lastCycle]

theorem advance_lastCycle (state : CatchUp) (period : Nat) :
    (state.advance period).console.lastCycle = state.console.lastCycle + period := by
  rw [advance_console]
  rfl

/-- Catching up has led from one state to another by so many cycles. -/
structure CatchUp.Ran (period now : Nat) (before after : CatchUp) (n : Nat) : Prop where
  console_eq : after.console =
    (before.console.stretch n).console.atTime (before.console.lastCycle + n * period)
  results_length : (before.console.stretch n).results.length = n
  cycles_eq : after.cycles = before.cycles + n
  notices_eq : after.notices = (before.console.stretch n).notices.reverse ++ before.notices
  /-- The clock is never overtaken. -/
  in_time : 0 < n * period → before.console.lastCycle + n * period ≤ now

theorem CatchUp.Ran.none (period now : Nat) (state : CatchUp) : Ran period now state state 0 where
  console_eq := by simp [stretch]
  results_length := rfl
  cycles_eq := rfl
  notices_eq := rfl
  in_time some := absurd some (by simp)

/-- What is due is a cycle of a console that has not halted. -/
theorem isDue_iff {period now : Nat} : console.isDue period now = true ↔
    console.halted = false ∧ period ≤ now - console.lastCycle := by
  simp [isDue]

/-- One cycle more, in front. -/
theorem CatchUp.Ran.advance {period now : Nat} {before after : CatchUp}
    (due : before.console.isDue period now = true)
    (ran : Ran period now (before.advance period) after n) :
    Ran period now before after (n + 1) := by
  obtain ⟨running, late⟩ := isDue_iff.mp due
  -- the other cycles do not notice that the clock of the console has moved by a period
  have stretched := stretch_atTime before.console.runCycle.1 (before.console.lastCycle + period) n
  rw [← advance_console] at stretched
  constructor
  · rw [ran.console_eq, stretched, stretch_succ running, advance_lastCycle, atTime_atTime,
      Nat.add_assoc, Nat.succ_mul, Nat.add_comm period]
  · have length := ran.results_length
    rw [stretched] at length
    rw [stretch_succ running, List.length_cons, length]
  · rw [ran.cycles_eq]
    exact Nat.add_right_comm _ _ _
  · rw [ran.notices_eq, stretched, stretch_succ running]
    simp [CatchUp.advance]
  · intro some
    have later := ran.in_time
    rw [advance_lastCycle] at later
    rw [Nat.succ_mul] at some ⊢
    omega

section Loop

variable {period now patience : Nat} {state after : CatchUp}

theorem catchUp_of_idle (idle : state.console.isDue period now = false) (patience : Nat) :
    catchUp period now patience state = some state := by
  cases patience <;> simp [catchUp, idle]

theorem catchUp_succ_of_due (due : state.console.isDue period now = true) (patience : Nat) :
    catchUp period now (patience + 1) state =
      catchUp period now patience (state.advance period) := by
  simp [catchUp, due]

theorem catchUp_zero_of_due (due : state.console.isDue period now = true) :
    catchUp period now 0 state = none := by
  simp [catchUp, due]

/-- Catching up is a stretch of cycles after which none is due. -/
theorem catchUp_ran (answer : catchUp period now patience state = some after) :
    ∃ n, CatchUp.Ran period now state after n ∧ after.console.isDue period now = false := by
  induction patience generalizing state with
  | zero =>
    cases due : state.console.isDue period now with
    | true => simp [catchUp_zero_of_due due] at answer
    | false =>
      rw [catchUp_of_idle due, Option.some.injEq] at answer
      exact ⟨0, answer ▸ .none period now state, answer ▸ due⟩
  | succ patience ih =>
    cases due : state.console.isDue period now with
    | true =>
      rw [catchUp_succ_of_due due] at answer
      obtain ⟨n, ran, idle⟩ := ih answer
      exact ⟨n + 1, ran.advance due, idle⟩
    | false =>
      rw [catchUp_of_idle due, Option.some.injEq] at answer
      exact ⟨0, answer ▸ .none period now state, answer ▸ due⟩

end Loop

/-! ## The program may run -/

/-- A console rests, or it runs by itself. -/
theorem resting_or_running (console : Console) :
    (console.stepThrough = true ∨ console.halted = true) ∨
      console.stepThrough = false ∧ console.halted = false := by
  cases console.stepThrough <;> cases console.halted <;> simp

/-- Where a console stands when it starts to catch up. -/
def readied (console : Console) : CatchUp :=
  ⟨console.poll.1, 0, console.poll.2.reverse⟩

theorem catchUpNow_of_resting (resting : console.stepThrough = true ∨ console.halted = true)
    (patience now : Nat) : console.catchUpNow patience now = some ⟨console, 0, []⟩ := by
  rcases resting with rest | rest <;> simp [catchUpNow, rest]

theorem catchUpNow_of_running (free : console.stepThrough = false)
    (running : console.halted = false) (patience now : Nat) :
    console.catchUpNow patience now = catchUp console.period now patience console.readied := by
  simp [catchUpNow, free, running, readied]

/-- What a console puts out when it has caught up: what was reported on the way, and the request for
a redraw if its window is open and its display is dirty. -/
def settled (console : Console) (reported : List Notice) : Reaction :=
  let redraw := console.surface.isSome && console.display.dirty
  ⟨console, reported.map .notice ++ (if redraw then [.call .requestRedraw] else []), .goOn⟩

theorem aboutToWait_eq (console : Console) (patience now : Nat) :
    console.aboutToWait patience now =
      (console.catchUpNow patience now).map fun caught =>
        caught.console.settled caught.notices.reverse := rfl

theorem settled_atTime (console : Console) (reported : List Notice) (time : Nat) :
    (console.atTime time).settled reported = (console.settled reported).atTime time := rfl

structure Happened where
  reaction : Reaction
  results : List (Except Fault Cycle)

/-- What a console does when the program may run and so many cycles are due. -/
def frame (console : Console) (cycles : Nat) : Happened :=
  if console.stepThrough || console.halted then ⟨console.settled [], []⟩
  else
    let ran := console.poll.1.stretch cycles
    ⟨ran.console.settled (console.poll.2 ++ ran.notices), ran.results⟩

theorem frame_of_resting (resting : console.stepThrough = true ∨ console.halted = true)
    (cycles : Nat) : console.frame cycles = ⟨console.settled [], []⟩ := by
  rcases resting with rest | rest <;> simp [frame, rest]

theorem frame_of_running (free : console.stepThrough = false) (running : console.halted = false)
    (cycles : Nat) :
    console.frame cycles = ⟨(console.poll.1.stretch cycles).console.settled
      (console.poll.2 ++ (console.poll.1.stretch cycles).notices),
      (console.poll.1.stretch cycles).results⟩ := by
  simp [frame, free, running]

/-- Whatever the clock says, what a console does when the program may run is a frame of as many
cycles as were due, and only the time of the console depends on the clock. -/
theorem catchUpNow_frame {patience now : Nat} {caught : CatchUp}
    (found : console.catchUpNow patience now = some caught) : ∃ time,
    caught.console.settled caught.notices.reverse =
      (console.frame caught.cycles).reaction.atTime time := by
  rcases resting_or_running console with resting | ⟨free, running⟩
  · rw [catchUpNow_of_resting resting, Option.some.injEq] at found
    refine ⟨console.lastCycle, ?_⟩
    rw [frame_of_resting resting, ← settled_atTime, atTime_lastCycle, ← found]
    rfl
  · rw [catchUpNow_of_running free running] at found
    obtain ⟨n, ran, _⟩ := catchUp_ran found
    have count : caught.cycles = n := ran.cycles_eq.trans (Nat.zero_add n)
    refine ⟨console.readied.console.lastCycle + n * console.period, ?_⟩
    rw [frame_of_running free running, ← settled_atTime, count, ran.console_eq, ran.notices_eq,
      List.reverse_append, List.reverse_reverse, readied, List.reverse_reverse]

theorem aboutToWait_frame {patience now : Nat} {reaction : Reaction}
    (answer : console.aboutToWait patience now = some reaction) :
    ∃ cycles time, reaction = (console.frame cycles).reaction.atTime time := by
  rw [aboutToWait_eq] at answer
  obtain ⟨caught, found, rfl⟩ := Option.map_eq_some_iff.mp answer
  exact ⟨caught.cycles, catchUpNow_frame found⟩

end Console
end Chip8
