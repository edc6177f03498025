import Chip8.Proofs.Console.Halting
import Chip8.Proofs.KeyWait
import Chip8.Proofs.StraightLine

/-!
# Consoles with a straight program

A console runs a program in a straight line as its machine does by itself: whatever keys are typed
on the way, each cycle is the next step, and the cycle behind the last word halts it.
-/
namespace Chip8

/-- None of the words ends the program, and the halt marker does. -/
theorem Machine.GoesThrough.ends {program : List UInt8} {n k : Nat} {start : Machine}
    (through : start.GoesThrough program n) (line : StraightLine program n) (inside : k ≤ n) :
    Cycle.ends (start.steps k).step.result = true ↔ k = n := by
  rcases Nat.lt_or_eq_of_le inside with before | rfl
  · have unmarked := line.unmarked k before
    rw [through.results k before, Cycle.ofWord]
    cases Instruction.ofWord? (Memory.wordAt program k) with
    | none => simp [Cycle.ends, unmarked, Nat.ne_of_lt before]
    | some instruction => simp [Cycle.ends, Nat.ne_of_lt before]
  · rw [(through.reached k inside).step_last line]
    simp [Cycle.ends]

namespace Console

/-- A console whose machine has made so many steps, but for its keys, and which is halted exactly if
these were one more than the words of its program. -/
structure Along (start : Machine) (n count : Nat) (console : Console) : Prop where
  machine : console.machine = (start.steps count).withKeys console.machine.keys
  count_le : count ≤ n + 1
  halted_iff : console.halted = true ↔ count = n + 1

variable {start : Machine} {program : List UInt8} {n count : Nat} {console after : Console}

theorem Along.count_le_of_running (along : Along start n count console)
    (running : console.halted = false) : count ≤ n := by
  have unfinished : count ≠ n + 1 := fun finished => by
    rw [along.halted_iff.mpr finished] at running
    cases running
  have le := along.count_le
  omega

/-- A console that has just been made has made no steps. -/
theorem Along.booted (machine : console.machine = start) (running : console.halted = false) :
    Along start n 0 console := by
  refine ⟨?_, Nat.zero_le _, ?_⟩
  · subst machine
    rfl
  · rw [running]
    exact iff_of_false Bool.false_ne_true (Nat.succ_ne_zero n).symm

theorem Along.aside (along : Along start n count console) (same : console.Aside after) :
    Along start n count after := by
  refine ⟨?_, along.count_le, ?_⟩
  · rw [same.machine]
    exact along.machine
  · rw [same.halted]
    exact along.halted_iff

theorem Along.atTime (along : Along start n count console) (time : Nat) :
    Along start n count (console.atTime time) :=
  along.aside ⟨rfl, rfl, rfl, rfl, rfl⟩

section Through

variable (through : start.GoesThrough program n) (line : StraightLine program n)

include through in
/-- Other keys are all that giving keys to the machine changes, since it waits for none. -/
theorem Along.poll (along : Along start n count console) (running : console.halted = false) :
    Along start n count console.poll.1 := by
  have inside := along.count_le_of_running running
  have free : console.machine.keyWait = none := by
    rw [along.machine]
    exact (through.reached count inside).free
  have polled : console.poll.1.machine =
      { console.machine with keys := console.keyboard.keypad } := by
    show (console.machine.applyKeys console.keyboard.keypad).1 = _
    rw [Machine.applyKeys_of_idle (.inl free)]
  refine ⟨?_, along.count_le, along.halted_iff⟩
  rw [polled, along.machine]
  rfl

include through line in
/-- A cycle is the next step. -/
theorem Along.runCycle (along : Along start n count console) (running : console.halted = false) :
    Along start n (count + 1) console.runCycle.1 := by
  have inside := along.count_le_of_running running
  obtain ⟨result, stepped⟩ := through.step_withKeys line inside console.machine.keys
  rw [← along.machine] at result stepped
  obtain ⟨halted, ran⟩ := runCycle_eq console
  have machine : console.runCycle.1.machine = console.machine.step.machine := by
    rw [ran]
    rfl
  refine ⟨?_, Nat.succ_le_succ inside, ?_⟩
  · rw [machine, stepped]
    rfl
  · rw [runCycle_halted, running, Bool.false_or, result, through.ends line inside]
    omega

include through line in
/-- Cycles one after another are as many steps, as long as there are any. -/
theorem Along.stretch (along : Along start n count console) (more : Nat) :
    count + (console.stretch more).results.length = min (count + more) (n + 1) ∧
      Along start n (count + (console.stretch more).results.length)
        (console.stretch more).console := by
  induction more generalizing console count with
  | zero => exact ⟨(Nat.min_eq_left along.count_le).symm, along⟩
  | succ more ih =>
    cases running : console.halted with
    | true =>
      have all := along.halted_iff.mp running
      rw [stretch_of_halted running]
      refine ⟨?_, along⟩
      show count = _
      omega
    | false =>
      obtain ⟨length, later⟩ := ih (along.runCycle through line running)
      rw [stretch_succ running, List.length_cons, Nat.add_comm _ 1, ← Nat.add_assoc]
      refine ⟨?_, later⟩
      omega

include through line in
/-- A turn that does not start over goes on by as many steps as it runs cycles. -/
theorem Along.after_turn {recorder later : Recorder} {turn : Turn}
    (way : Recorder.TurnCase recorder turn later) (kept : turn.callback.isRestart = false)
    (along : Along start n recorder.results.length recorder.console) :
    Along start n later.results.length later.console := by
  cases way with
  | rests _ _ => exact along
  | aside _ _ _ same _ => exact along.aside same
  | byHand handled =>
    obtain ⟨_, _, running⟩ := handles_iff.mp handled
    have polled := along.poll through running
    rw [Recorder.results_runCycle, Recorder.results_poll, List.length_append]
    exact polled.runCycle through line running
  | startsOver pressed =>
    rw [kept] at pressed
    cases pressed
  | runs cycles _ _ running _ _ _ =>
    have polled := along.poll through running
    rw [Recorder.caughtUp_console, Recorder.results_caughtUp, List.length_append]
    exact (polled.stretch through line cycles).2.atTime _

end Through

end Console

/-- A program in a straight line that was loaded into a new machine: either the steps, one for each
word, come to one that faults because its instruction draws or loads registers past the end of
memory; or each of them executes its word, or steps over it if it is no instruction, moves the
program counter on by one word and leaves memory as it was loaded, and the next step finds the halt
marker. Then a console with the program, by itself or by hand and whatever happens to it short of a
restart, is halted exactly when it has run one cycle more than there are words, and runs so many if
it may. -/
theorem Settings.straight_line_halts {program : List UInt8} {n : Nat}
    (line : StraightLine program n) (rate : UInt32) (random : RandomSource) :
    ∃ start, (Machine.powerOn rate random).load program =
        ⟨.ok (), start, [.programLoaded program.length]⟩ ∧
      ((∃ k < n,
          (∀ j < k, (start.steps j).step.result = .ok (.ofWord (Memory.wordAt program j))) ∧
          (start.steps k).Overreaches (Memory.wordAt program k)) ∨
        (∀ k < n, (start.steps k).step.result = .ok (.ofWord (Memory.wordAt program k)) ∧
          (start.steps (k + 1)).counter.toNat = 0x200 + 2 * (k + 1) ∧
          (start.steps (k + 1)).memory = start.memory) ∧
        (start.steps n).step.result = .ok (.decodeFault 0x0EFD) ∧
        ∀ (scale : Nat) (byHand : Bool) (patience : Nat) (turns : List Turn) (after : Recorder),
          (∀ turn ∈ turns, turn.callback.isRestart = false) →
          (Recorder.start (boot ⟨rate, scale, program, byHand⟩ random)).attend patience turns =
            some after →
          (boot ⟨rate, scale, program, byHand⟩ random).attend patience turns =
            some after.console ∧
          (after.results.length ≤ n + 1 ∧
            (after.console.halted = true ↔ after.results.length = n + 1)) ∧
          ∀ more, after.results.length + (after.console.stretch more).results.length =
              min (after.results.length + more) (n + 1) ∧
            ((after.console.stretch more).console.halted = true ↔
              n + 1 ≤ after.results.length + more)) := by
  obtain ⟨start, loaded, at_word⟩ := Machine.load_atWord line rate random
  refine ⟨start, loaded, (Machine.steps_straight at_word line).imp
    (fun ⟨k, inside, through, beyond⟩ => ⟨k, inside, through.results, beyond⟩) fun through => ?_⟩
  refine ⟨fun k inside => ⟨through.results k inside, ?_, ?_⟩,
    (through.reached n (Nat.le_refl n)).step_last line, ?console⟩
  · exact (through.reached (k + 1) inside).counter
  · rw [(through.reached (k + 1) inside).memory, at_word.memory]
  case console =>
    intro scale byHand patience turns after kept attended
    have booted : (boot ⟨rate, scale, program, byHand⟩ random).machine = start :=
      congrArg Outcome.machine loaded
    have along : Console.Along start n after.results.length after.console :=
      Recorder.attend_induction
        (P := fun recorder => Console.Along start n recorder.results.length recorder.console)
        (fun turn member _ _ way along => along.after_turn through line way (kept turn member))
        (.booted booted rfl) attended
    have erased := Recorder.attend_console (.start (boot ⟨rate, scale, program, byHand⟩ random))
      patience turns
    rw [attended] at erased
    refine ⟨erased.symm, ⟨along.count_le, along.halted_iff⟩, fun more => ?_⟩
    obtain ⟨length, later⟩ := along.stretch through line more
    refine ⟨length, later.halted_iff.trans ?_⟩
    omega

/-- A program of four words: it loads a register and the index register, draws, and ends on a word
that is no instruction. -/
def Settings.fourWords : List UInt8 :=
  [0x60, 0x07, 0xA2, 0x00, 0xD0, 0x01, 0xFF, 0xFF]

/-- A frame of two cycles, a key that goes down, and a frame with time for many cycles. -/
def Settings.keyBetweenFrames : List Turn :=
  [⟨5000000, .aboutToWait⟩,
    ⟨6000000, .window ⟨1, true, true, true⟩ (.keyInput ⟨.character "w", true, false⟩)⟩,
    ⟨90000000, .aboutToWait⟩]

/-- With a key held on the way the program halts after five cycles. -/
theorem Settings.fourWords_halts : StraightLine fourWords 4 ∧
    ∃ after, (Recorder.start (boot ⟨500, 1, fourWords, false⟩ (.constant 0))).attend 9
        keyBetweenFrames = some after ∧
      after.console.halted = true ∧ after.results.length = 5 := by
  have line : StraightLine fourWords 4 := by
    refine ⟨rfl, by decide, ?_, ?_⟩
    · decide +kernel
    · decide +kernel
  have halts : ((Recorder.start (boot ⟨500, 1, fourWords, false⟩ (.constant 0))).attend 9
      keyBetweenFrames).map (fun after => after.console.halted) = some true := by
    decide +kernel
  have done : ∀ k < 4, ((((Machine.powerOn 500 (.constant 0)).load fourWords).machine.steps
      k).step.result.toOption).isSome = true := by
    decide +kernel
  obtain ⟨after, attended, halted⟩ := Option.map_eq_some_iff.mp halts
  obtain ⟨start, loaded, ways⟩ := straight_line_halts line 500 (.constant 0)
  rw [loaded] at done
  rcases ways with ⟨k, inside, _, ⟨_, failed⟩, _⟩ | ⟨_, _, consoles⟩
  · have some := done k inside
    rw [failed] at some
    cases some
  · have kept : ∀ turn ∈ keyBetweenFrames, turn.callback.isRestart = false := by decide
    obtain ⟨_, ⟨_, halts⟩, _⟩ := consoles 1 false 9 _ after kept attended
    exact ⟨line, after, attended, halted, halts.mp halted⟩

end Chip8
