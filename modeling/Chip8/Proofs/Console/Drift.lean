import Chip8.Proofs.Console.Halting
import Chip8.Proofs.Console.Pace

/-!
# Pacing without drift

A console that runs by itself runs one cycle for each whole period since it was last in step with
the clock, however the time is divided into frames: what a frame leaves over of a period is not
lost, and no cycle is run early. A cycle that ends the program is the last one.
-/
namespace Chip8

namespace Callback

/-- A call at which no console starts over or is set to the clock. -/
def isOrdinary (callback : Callback) : Bool :=
  !callback.isRestart && !callback.isResumed

theorem isOrdinary_iff {callback : Callback} :
    callback.isOrdinary = true ↔ callback.isRestart = false ∧ callback.isResumed = false := by
  simp [isOrdinary]

end Callback

/-- The period hangs on the rate alone. -/
theorem Console.period_congr {a b : Console} (rate : b.machine.rate = a.machine.rate) :
    b.period = a.period :=
  congrArg Timing.cycleTime rate

namespace Recorder

variable {recorder after : Recorder} {patience : Nat} {turn : Turn}

/-! ## In step with the clock -/

/-- A console that runs by itself and has run a cycle for each period from a start on, and none that
was not due by a time. -/
structure OnPace (start period limit : Nat) (recorder : Recorder) : Prop where
  free : recorder.console.stepThrough = false
  period_eq : recorder.console.period = period
  lastCycle_eq : recorder.console.lastCycle = start + recorder.results.length * period
  in_time : recorder.console.lastCycle ≤ limit

variable {start period limit : Nat}

theorem caughtUp_keeps (recorder : Recorder) (n : Nat) :
    recorder.console.Keeps (recorder.caughtUp n).console := by
  have ran := (Console.poll_keeps recorder.console).trans
    (Console.stretch_keeps recorder.console.poll.1 n)
  rw [caughtUp_console]
  exact ran.atTime _

/-- The cycles of a frame take up their periods. -/
theorem OnPace.caughtUp {n : Nat} (pace : OnPace start period limit recorder)
    (length : (recorder.console.poll.1.stretch n).results.length = n)
    (in_time : 0 < n * recorder.console.period →
      recorder.console.lastCycle + n * recorder.console.period ≤ limit) :
    OnPace start period limit (recorder.caughtUp n) := by
  have keeps := caughtUp_keeps recorder n
  have last : (recorder.caughtUp n).console.lastCycle =
      recorder.console.lastCycle + n * period := by
    rw [caughtUp_console, Console.lastCycle_atTime, pace.period_eq]
  rw [pace.period_eq] at in_time
  refine ⟨keeps.stepThrough.trans pace.free,
    (Console.period_congr keeps.rate).trans pace.period_eq, ?_, ?_⟩
  · rw [last, pace.lastCycle_eq, results_caughtUp, List.length_append, length, Nat.add_mul,
      Nat.add_assoc]
  · rw [last]
    rcases Nat.eq_zero_or_pos (n * period) with none | some
    · rw [none]
      exact pace.in_time
    · exact in_time some

theorem OnPace.after_turn (pace : OnPace start period limit recorder)
    (way : TurnCase recorder turn after) (ordinary : turn.callback.isOrdinary = true)
    (early : turn.now ≤ limit) : OnPace start period limit after := by
  obtain ⟨kept, going⟩ := Callback.isOrdinary_iff.mp ordinary
  cases way with
  | rests _ _ => exact pace
  | aside _ _ _ same clock =>
    have last := clock going
    have rate := congrArg Machine.rate same.machine
    exact ⟨same.stepThrough.trans pace.free, (Console.period_congr rate).trans pace.period_eq,
      last.trans pace.lastCycle_eq, last.trans_le pace.in_time⟩
  | byHand handled =>
    obtain ⟨_, byHand, _⟩ := Console.handles_iff.mp handled
    rw [pace.free] at byHand
    cases byHand
  | startsOver pressed =>
    rw [kept] at pressed
    cases pressed
  | runs n _ _ _ length in_time _ =>
    exact pace.caughtUp length fun some => (in_time some).trans early

theorem OnPace.attend {turns : List Turn} (pace : OnPace start period limit recorder)
    (ordinary : ∀ turn ∈ turns, turn.callback.isOrdinary = true)
    (early : ∀ turn ∈ turns, turn.now ≤ limit)
    (attended : recorder.attend patience turns = some after) :
    OnPace start period limit after :=
  attend_induction (P := OnPace start period limit)
    (fun turn member _ _ way pace => pace.after_turn way (ordinary turn member) (early turn member))
    pace attended

/-! ## Every turn is answered -/

/-- The periods since the start are patience enough at any time. -/
theorem OnPace.take_isSome (pace : OnPace start period limit recorder) (takes : 0 < period)
    (early : turn.now ≤ limit) (enough : (limit - start) / period ≤ patience) :
    ∃ after, recorder.take patience turn = some after := by
  obtain ⟨now, callback⟩ := turn
  cases callback with
  | resumed _ | window _ _ => exact ⟨_, rfl⟩
  | aboutToWait =>
    have paced : recorder.console.machine.rate ≤ Timing.topRate := by
      rw [← Console.period_pos_iff, pace.period_eq]
      exact takes
    have shorter : now - recorder.console.lastCycle ≤ limit - start := by
      rw [pace.lastCycle_eq]
      exact (Nat.sub_le_sub_right early _).trans (Nat.sub_le_sub_left (Nat.le_add_right _ _) _)
    have fewer : (now - recorder.console.lastCycle) / recorder.console.period ≤ patience := by
      rw [pace.period_eq]
      exact (Nat.div_le_div_right shorter).trans enough
    have answers := Console.aboutToWait_isSome_of_paced paced fewer
    have same := congrArg Option.isSome (take_console recorder patience ⟨now, .aboutToWait⟩)
    rw [Option.isSome_map, Option.isSome_map] at same
    exact Option.isSome_iff_exists.mp (same.trans answers)

theorem OnPace.attend_isSome {turns : List Turn} (pace : OnPace start period limit recorder)
    (takes : 0 < period) (ordinary : ∀ turn ∈ turns, turn.callback.isOrdinary = true)
    (early : ∀ turn ∈ turns, turn.now ≤ limit) (enough : (limit - start) / period ≤ patience) :
    ∃ after, recorder.attend patience turns = some after := by
  have answers : ∀ turn ∈ turns, ∀ before, OnPace start period limit before →
      ∃ after, before.take patience turn = some after ∧ OnPace start period limit after := by
    intro turn member before pace
    obtain ⟨after, taken⟩ := pace.take_isSome takes (early turn member) enough
    have kept := pace.after_turn (take_cases taken) (ordinary turn member) (early turn member)
    exact ⟨after, taken, kept⟩
  obtain ⟨after, attended, _⟩ := attend_answers answers pace
  exact ⟨after, attended⟩

/-! ## After a frame -/

/-- When the program may run, a console that runs by itself and does not halt catches up. -/
theorem idle_of_aboutToWait {now : Nat} (free : recorder.console.stepThrough = false)
    (taken : recorder.take patience ⟨now, .aboutToWait⟩ = some after)
    (running : after.console.halted = false) :
    now - after.console.lastCycle < recorder.console.period := by
  cases take_cases taken with
  | rests _ resting =>
    rw [free, running] at resting
    simp at resting
  | aside other _ _ _ _ => exact absurd rfl other
  | byHand handled =>
    obtain ⟨space, _⟩ := Console.handles_iff.mp handled
    cases space
  | startsOver pressed => cases pressed
  | runs n _ _ _ _ _ idle =>
    rw [← Bool.not_eq_true, Console.isDue_iff] at idle
    exact Nat.lt_of_not_le fun late => idle ⟨running, late⟩

/-- As many cycles have been run as there were whole periods. -/
theorem OnPace.count (pace : OnPace start period limit recorder)
    (idle : limit - recorder.console.lastCycle < period) :
    recorder.results.length = (limit - start) / period := by
  have last := pace.lastCycle_eq
  have in_time := pace.in_time
  rw [last] at in_time idle
  symm
  apply Nat.div_eq_of_lt_le
  · omega
  · rw [Nat.succ_mul]
    omega

end Recorder

/-! ## No drift -/

namespace Console

/-- A console that runs by itself, whatever it is called for up to a time at which the program may
run, as long as it is not started over or set to the clock: it answers every call, and each cycle
has taken up its period. If it has not halted it has run one for each whole period since it was last
in step with the clock, and it is less than a period behind. A cycle that ends the program halts it
and is the last one. -/
theorem keeps_pace (console : Console) (turns : List Turn) (now : Nat)
    (free : console.stepThrough = false) (takes : 0 < console.period)
    (started : console.lastCycle ≤ now)
    (ordinary : ∀ turn ∈ turns, turn.callback.isOrdinary = true)
    (early : ∀ turn ∈ turns, turn.now ≤ now) :
    (∀ patience, (now - console.lastCycle) / console.period ≤ patience →
      ∃ after, (Recorder.start console).attend patience (turns ++ [⟨now, .aboutToWait⟩]) =
        some after) ∧
    ∀ patience after,
      (Recorder.start console).attend patience (turns ++ [⟨now, .aboutToWait⟩]) = some after →
        console.attend patience (turns ++ [⟨now, .aboutToWait⟩]) = some after.console ∧
        after.console.lastCycle =
          console.lastCycle + after.results.length * console.period ∧
        (after.console.halted = false →
          after.results.length = (now - console.lastCycle) / console.period ∧
          after.console.lastCycle ≤ now ∧ now - after.console.lastCycle < console.period) ∧
        (after.results.Pairwise fun earlier _ => Cycle.ends earlier = false) ∧
        (after.console.halted = true ↔
          console.halted = true ∨ ∃ result ∈ after.results, Cycle.ends result = true) := by
  have pace : Recorder.OnPace console.lastCycle console.period now (.start console) :=
    ⟨free, rfl, by simp [Recorder.start, Recorder.results], started⟩
  have all_ordinary : ∀ turn ∈ turns ++ [⟨now, .aboutToWait⟩],
      turn.callback.isOrdinary = true := by
    simpa [or_imp, forall_and] using ⟨ordinary, rfl⟩
  have all_early : ∀ turn ∈ turns ++ [⟨now, .aboutToWait⟩], turn.now ≤ now := by
    simpa [or_imp, forall_and] using early
  refine ⟨fun patience enough => pace.attend_isSome takes all_ordinary all_early enough, ?_⟩
  intro patience after attended
  have kept := pace.attend all_ordinary all_early attended
  have ends : Recorder.EndsLast console.halted after.console after.results :=
    Recorder.attend_endsLast
      (fun turn member => (Callback.isOrdinary_iff.mp (all_ordinary turn member)).1)
      ⟨.nil, by simp [Recorder.start, Recorder.results]⟩ attended
  refine ⟨?erased, kept.lastCycle_eq, ?caughtUp, ends.last, ends.halted_iff⟩
  case erased =>
    have erased := Recorder.attend_console (.start console) patience
      (turns ++ [⟨now, .aboutToWait⟩])
    rw [attended] at erased
    exact erased.symm
  case caughtUp =>
    intro running
    rw [Recorder.attend_append] at attended
    obtain ⟨before, first, last⟩ := Option.bind_eq_some_iff.mp attended
    rw [Recorder.attend_single] at last
    -- the last frame decides how far the console is behind, those before it how it got there
    have paced := pace.attend ordinary early first
    have idle := Recorder.idle_of_aboutToWait paced.free last running
    rw [paced.period_eq] at idle
    exact ⟨kept.count idle, kept.in_time, idle⟩

def keyBetweenFrames : List Turn :=
  [⟨1000000, .aboutToWait⟩,
    ⟨2000000, .window ⟨1, true, true, true⟩ (.keyInput ⟨.character "q", true, false⟩)⟩,
    ⟨3900000, .aboutToWait⟩]

/-- At five hundred cycles a second, five milliseconds in three frames are two cycles. -/
theorem running_keeps_pace :
    (running 500 [0x12, 0x00]).stepThrough = false ∧ 0 < (running 500 [0x12, 0x00]).period ∧
      (running 500 [0x12, 0x00]).lastCycle ≤ 5000001 ∧
      (∀ turn ∈ keyBetweenFrames, turn.callback.isOrdinary = true) ∧
      (∀ turn ∈ keyBetweenFrames, turn.now ≤ 5000001) ∧
      ∃ after, (Recorder.start (running 500 [0x12, 0x00])).attend 2
          (keyBetweenFrames ++ [⟨5000001, .aboutToWait⟩]) = some after ∧
        after.console.halted = false ∧ after.results.length = 2 ∧
        5000001 - after.console.lastCycle < 2000000 := by
  have free : (running 500 [0x12, 0x00]).stepThrough = false := by decide +kernel
  have period : (running 500 [0x12, 0x00]).period = 2000000 := by decide +kernel
  have last : (running 500 [0x12, 0x00]).lastCycle = 0 := by decide +kernel
  have takes : 0 < (running 500 [0x12, 0x00]).period := by
    rw [period]
    decide
  have started : (running 500 [0x12, 0x00]).lastCycle ≤ 5000001 := last ▸ Nat.zero_le _
  have ordinary : ∀ turn ∈ keyBetweenFrames, turn.callback.isOrdinary = true := by decide
  have early : ∀ turn ∈ keyBetweenFrames, turn.now ≤ 5000001 := by decide
  have going : ((running 500 [0x12, 0x00]).attend 2
      (keyBetweenFrames ++ [⟨5000001, .aboutToWait⟩])).map Console.halted = some false := by
    decide +kernel
  obtain ⟨answers, count⟩ := keeps_pace _ keyBetweenFrames 5000001 free takes started ordinary early
  rw [period, last] at answers
  obtain ⟨after, attended⟩ := answers 2 (by decide)
  obtain ⟨erased, _, caughtUp, _⟩ := count 2 after attended
  rw [erased, Option.map_some, Option.some.injEq] at going
  obtain ⟨length, _, behind⟩ := caughtUp going
  rw [period] at behind
  rw [period, last] at length
  exact ⟨free, takes, started, ordinary, early, after, attended, going, length, behind⟩

end Console
end Chip8
