import Chip8.Proofs.Console.Halting
import Chip8.Proofs.Footprint
import Chip8.Proofs.KeyWait
import Chip8.Proofs.Mirror

/-!
# By itself and by hand

While no key is held, keys that are given to the machine change nothing in it, however often they
are. So a console that has run some cycles, by itself in frames of any length or by hand one after
another, is where its machine is after just as many steps.
-/
namespace Chip8

/-- No key both runs a cycle and starts over. -/
theorem Callback.isSpace_of_isRestart {callback : Callback} (restart : callback.isRestart = true) :
    callback.isSpace = false := by
  cases callback with
  | resumed _ | aboutToWait => rfl
  | window desktop event =>
    cases event with
    | closeRequested | redrawRequested | ignored => rfl
    | keyInput input =>
      have key : input = ⟨.named .backspace, true, false⟩ := by simpa [isRestart] using restart
      rw [key]
      rfl

theorem Recorder.results_restart (recorder : Recorder) (now : Nat) :
    (recorder.restart now).results = recorder.results := by
  simp [results, Deed.result?]

/-! ## Steps without a console -/

namespace Watched

def loaded (rate : UInt32) (scale : Nat) (rom : List UInt8) (random : RandomSource) : Watched :=
  (powerOn rate random scale).act (.operate (.load rom))

def steps (watched : Watched) : Nat → Watched
  | 0 => watched
  | n + 1 => (watched.steps n).act (.operate .step)

/-- Whether the last of so many steps ended the program. -/
def endsAt (watched : Watched) : Nat → Bool
  | 0 => false
  | n + 1 => Cycle.ends (watched.steps n).machine.step.result

end Watched

namespace Machine

/-- No key is down and none was. -/
theorem applyKeys_of_none {machine : Machine} (none : machine.keys = .empty) :
    machine.applyKeys .empty = (machine, []) := by
  rw [applyKeys_of_idle (.inr rfl), if_pos none.symm, ← none]

end Machine

/-! ## Consoles after so many steps -/

namespace Console

/-- What turns find, each with the console that it finds. -/
def encounters (console : Console) (patience : Nat) : List Turn → List (Console × Turn)
  | [] => []
  | turn :: rest =>
    (console, turn) :: match console.take patience turn with
      | some reaction => reaction.console.encounters patience rest
      | none => []

/-- No turn finds a key of the keypad held, and none starts the console over. -/
def Undisturbed (console : Console) (patience : Nat) (turns : List Turn) : Prop :=
  ∀ encounter ∈ console.encounters patience turns,
    encounter.1.keyboard.keypad = .empty ∧ encounter.2.callback.isRestart = false

instance (console : Console) (patience : Nat) (turns : List Turn) :
    Decidable (console.Undisturbed patience turns) :=
  inferInstanceAs (Decidable (∀ encounter ∈ console.encounters patience turns, _))

/-- The turns that run a cycle by hand. -/
def presses (console : Console) (patience : Nat) (turns : List Turn) : Nat :=
  (console.encounters patience turns).countP fun encounter =>
    encounter.1.handles encounter.2.callback

/-- A console that is where a machine with a display is after so many steps. -/
structure AtStep (start : Watched) (n : Nat) (console : Console) : Prop where
  machine : console.machine = (start.steps n).machine
  display : console.display.Alike False (start.steps n).display
  halted : console.halted = start.endsAt n
  keys : console.machine.keys = .empty

variable {start : Watched} {console after : Console} {n : Nat}

/-- A new console is where a machine is that has loaded the same program. -/
theorem AtStep.boot (rate : UInt32) (scale : Nat) (rom : List UInt8) (random : RandomSource)
    (byHand : Bool) :
    AtStep (.loaded rate scale rom random) 0 (Settings.boot ⟨rate, scale, rom, byHand⟩ random) where
  machine := rfl
  display := .refl False _
  halted := rfl
  keys := by
    obtain ⟨memory, same⟩ := Machine.load_eq (.powerOn rate random) rom
    exact congrArg Machine.keys same

/-- Given a keypad with no key down, it stays. -/
theorem AtStep.poll (at_step : AtStep start n console)
    (released : console.keyboard.keypad = .empty) : AtStep start n console.poll.1 := by
  have polled : console.poll.1 = console := by
    unfold Console.poll
    rw [released, Machine.applyKeys_of_none at_step.keys]
    rfl
  rw [polled]
  exact at_step

theorem AtStep.runCycle (at_step : AtStep start n console) (running : console.halted = false) :
    AtStep start (n + 1) console.runCycle.1 := by
  have halted := runCycle_halted console
  rw [running, Bool.false_or, at_step.machine] at halted
  obtain ⟨_, ran⟩ := runCycle_eq console
  have machine : console.runCycle.1.machine = console.machine.step.machine := by rw [ran]; rfl
  have display : console.runCycle.1.display =
      console.display.follow console.machine.step.events := by rw [ran]; rfl
  constructor
  · rw [machine, at_step.machine]
    rfl
  · rw [display, at_step.machine]
    exact Display.follow_alike at_step.display _
  · exact halted
  · rw [machine, Machine.step_keys, at_step.keys]

theorem AtStep.aside (at_step : AtStep start n console) (same : console.Aside after) :
    AtStep start n after where
  machine := same.machine.trans at_step.machine
  display := ⟨same.shown.trans at_step.display.shown, same.scale.trans at_step.display.scale, nofun⟩
  halted := same.halted.trans at_step.halted
  keys := (congrArg Machine.keys same.machine).trans at_step.keys

theorem AtStep.atTime (at_step : AtStep start n console) (time : Nat) :
    AtStep start n (console.atTime time) :=
  at_step.aside ⟨rfl, rfl, rfl, rfl, rfl⟩

/-- The real pixels are those that the display shows after the steps. -/
theorem AtStep.buffer (at_step : AtStep start n console) :
    console.display.buffer = (start.steps n).display.buffer :=
  Display.buffer_congr at_step.display.shown at_step.display.scale

end Console

namespace Recorder

variable {start : Watched} {recorder after : Recorder}
  {patience : Nat} {turn : Turn} {turns : List Turn}

open Console (AtStep)

/-- A turn that finds no key held leaves the console where its machine is after as many steps as it
has run cycles. -/
theorem TurnCase.atStep (way : TurnCase recorder turn after)
    (released : recorder.console.keyboard.keypad = .empty)
    (kept : turn.callback.isRestart = false)
    (at_step : AtStep start recorder.results.length recorder.console) :
    AtStep start after.results.length after.console := by
  cases way with
  | rests _ _ => exact at_step
  | aside _ _ _ same _ => exact at_step.aside same
  | byHand handled =>
    obtain ⟨_, _, running⟩ := Console.handles_iff.mp handled
    rw [results_runCycle, results_poll, List.length_append, List.length_singleton]
    exact (at_step.poll released).runCycle running
  | startsOver pressed =>
    rw [kept] at pressed
    cases pressed
  | runs n _ _ _ _ _ _ =>
    rw [caughtUp_console, results_caughtUp, List.length_append]
    -- the keys are given once for all the cycles of a frame; the steps count on from there
    have ran : AtStep start
        (recorder.results.length + (recorder.console.poll.1.stretch n).results.length)
        (recorder.console.poll.1.stretch n).console := by
      refine Console.stretch_induction (P := fun console results =>
        AtStep start (recorder.results.length + results.length) console) ?_ ?_ n
      · intro console results running at_step
        rw [List.length_append, List.length_singleton, ← Nat.add_assoc]
        exact at_step.runCycle running
      · exact at_step.poll released
    exact ran.atTime _

/-- The next turn is found by the console that a turn leaves. -/
theorem encounters_cons (taken : recorder.take patience turn = some after) :
    recorder.console.encounters patience (turn :: turns) =
      (recorder.console, turn) :: after.console.encounters patience turns := by
  have same := take_console recorder patience turn
  rw [taken, Option.map_some] at same
  obtain ⟨reaction, answered, left⟩ := Option.map_eq_some_iff.mp same.symm
  rw [Console.encounters, answered, ← left]

theorem attend_atStep (undisturbed : recorder.console.Undisturbed patience turns)
    (at_step : AtStep start recorder.results.length recorder.console)
    (attended : recorder.attend patience turns = some after) :
    AtStep start after.results.length after.console := by
  induction turns generalizing recorder with
  | nil =>
    cases attended
    exact at_step
  | cons turn rest ih =>
    obtain ⟨next, taken, attended⟩ := Option.bind_eq_some_iff.mp attended
    rw [Console.Undisturbed, encounters_cons taken] at undisturbed
    obtain ⟨⟨released, kept⟩, undisturbed⟩ := List.forall_mem_cons.mp undisturbed
    exact ih undisturbed ((take_cases taken).atStep released kept at_step) attended

/-! ## Cycles by hand -/

theorem presses_cons (taken : recorder.take patience turn = some after) :
    recorder.console.presses patience (turn :: turns) = after.console.presses patience turns +
      if recorder.console.handles turn.callback then 1 else 0 := by
  rw [Console.presses, encounters_cons taken, List.countP_cons]
  rfl

/-- By hand a turn runs one cycle if it is a press of the space bar that is handled, and none
otherwise. -/
theorem TurnCase.results_length (way : TurnCase recorder turn after)
    (byHand : recorder.console.stepThrough = true) :
    after.console.stepThrough = true ∧ after.results.length =
      (if recorder.console.handles turn.callback then 1 else 0) + recorder.results.length := by
  cases way with
  | rests waits _ => simp [waits, Console.handles, Callback.isSpace, byHand]
  | aside _ unhandled _ same _ =>
    rw [unhandled, if_neg Bool.false_ne_true, Nat.zero_add]
    exact ⟨same.stepThrough.trans byHand, rfl⟩
  | byHand handled =>
    have keeps := (Console.poll_keeps recorder.console).trans (Console.runCycle_keeps _)
    rw [handled, if_pos rfl, results_runCycle, results_poll, List.length_append, Nat.add_comm]
    exact ⟨keeps.stepThrough.trans byHand, rfl⟩
  | startsOver pressed =>
    have unhandled : recorder.console.handles turn.callback = false := by
      simp [Console.handles, Callback.isSpace_of_isRestart pressed]
    rw [unhandled, if_neg Bool.false_ne_true, Nat.zero_add, results_restart]
    exact ⟨(Console.restart_keeps _ _).stepThrough.trans byHand, rfl⟩
  | runs _ _ free _ _ _ _ =>
    rw [free] at byHand
    cases byHand

theorem attend_presses (byHand : recorder.console.stepThrough = true)
    (attended : recorder.attend patience turns = some after) :
    after.results.length = recorder.console.presses patience turns + recorder.results.length := by
  induction turns generalizing recorder with
  | nil =>
    cases attended
    simp [Console.presses, Console.encounters]
  | cons turn rest ih =>
    obtain ⟨next, taken, attended⟩ := Option.bind_eq_some_iff.mp attended
    obtain ⟨still, length⟩ := (take_cases taken).results_length byHand
    rw [ih still attended, length, presses_cons taken, Nat.add_assoc]

end Recorder

/-! ## The two modes -/

namespace Settings

/-- Two consoles with one program and one random source, of which one runs by itself and the other
by hand: after as many cycles, in any frames, as the space bar has run, and while no key was held,
they have the same machine, the same real pixels, and have both halted or not; and they are where a
machine is that has loaded the program and made so many steps. -/
theorem modes_agree (rate : UInt32) (scale : Nat) (rom : List UInt8) (random : RandomSource)
    {n patience patience' : Nat} {frames events : List Turn} {free hand : Recorder}
    (ran : (Recorder.start (boot ⟨rate, scale, rom, false⟩ random)).attend patience frames =
      some free)
    (pressed : (Recorder.start (boot ⟨rate, scale, rom, true⟩ random)).attend patience' events =
      some hand)
    (undisturbed : (boot ⟨rate, scale, rom, false⟩ random).Undisturbed patience frames)
    (undisturbed' : (boot ⟨rate, scale, rom, true⟩ random).Undisturbed patience' events)
    (cycles : free.results.length = n)
    (presses : (boot ⟨rate, scale, rom, true⟩ random).presses patience' events = n) :
    (boot ⟨rate, scale, rom, false⟩ random).attend patience frames = some free.console ∧
      (boot ⟨rate, scale, rom, true⟩ random).attend patience' events = some hand.console ∧
      (free.console.machine = hand.console.machine ∧
        free.console.display.buffer = hand.console.display.buffer ∧
        free.console.halted = hand.console.halted) ∧
      ∃ start after, start = Watched.loaded rate scale rom random ∧ after = start.steps n ∧
        free.console.machine = after.machine ∧
        free.console.display.buffer = after.display.buffer ∧
        free.console.halted = start.endsAt n := by
  have erased := Recorder.attend_console (.start (boot ⟨rate, scale, rom, false⟩ random)) patience
    frames
  have erased' := Recorder.attend_console (.start (boot ⟨rate, scale, rom, true⟩ random)) patience'
    events
  rw [ran] at erased
  rw [pressed] at erased'
  have length : hand.results.length = n :=
    (Recorder.attend_presses (boot_kept _ random).stepThrough pressed).trans presses
  have first := Recorder.attend_atStep undisturbed (.boot rate scale rom random false) ran
  have second := Recorder.attend_atStep undisturbed' (.boot rate scale rom random true) pressed
  rw [cycles] at first
  rw [length] at second
  refine ⟨erased.symm, erased'.symm, ⟨?_, ?_, ?_⟩, _, _, rfl, rfl, first.machine, first.buffer,
    first.halted⟩
  · rw [first.machine, second.machine]
  · rw [first.buffer, second.buffer]
  · rw [first.halted, second.halted]

/-- A program that draws a random byte and then waits for a key. -/
def drawAndWait (byHand : Bool) : Console :=
  boot ⟨500, 1, [0xC3, 0xFF, 0xF5, 0x0A], byHand⟩ (.cyclic [7, 9])

def twoFrames : List Turn :=
  [⟨3000000, .aboutToWait⟩, ⟨6100000, .aboutToWait⟩]

def threePresses : List Turn :=
  [Console.spaceDown, ⟨7500000, .aboutToWait⟩, Console.spaceDown, Console.spaceDown]

theorem drawAndWait_agrees :
    ∃ free hand, (Recorder.start (drawAndWait false)).attend 3 twoFrames = some free ∧
      (Recorder.start (drawAndWait true)).attend 0 threePresses = some hand ∧
      (drawAndWait false).Undisturbed 3 twoFrames ∧
      (drawAndWait true).Undisturbed 0 threePresses ∧
      free.results.length = 3 ∧ (drawAndWait true).presses 0 threePresses = 3 ∧
      free.console.machine = hand.console.machine ∧ free.console.machine.keyWait = some 5 ∧
      free.console.halted = hand.console.halted := by
  have free : ((Recorder.start (drawAndWait false)).attend 3 twoFrames).map
      (fun after => (after.results.length, after.console.machine.keyWait)) = some (3, some 5) := by
    decide +kernel
  have hand : ((Recorder.start (drawAndWait true)).attend 0 threePresses).isSome := by
    decide +kernel
  obtain ⟨freed, ran, told⟩ := Option.map_eq_some_iff.mp free
  obtain ⟨handed, pressed⟩ := Option.isSome_iff_exists.mp hand
  obtain ⟨length, waits⟩ := Prod.mk.inj told
  have undisturbed : (drawAndWait false).Undisturbed 3 twoFrames := by decide +kernel
  have undisturbed' : (drawAndWait true).Undisturbed 0 threePresses := by decide +kernel
  have presses : (drawAndWait true).presses 0 threePresses = 3 := by decide +kernel
  obtain ⟨_, _, ⟨machine, _, halted⟩, _⟩ := modes_agree 500 1 [0xC3, 0xFF, 0xF5, 0x0A]
    (.cyclic [7, 9]) ran pressed undisturbed undisturbed' length presses
  exact ⟨freed, handed, ran, pressed, undisturbed, undisturbed', length, presses, machine, waits,
    halted⟩

end Settings
end Chip8
