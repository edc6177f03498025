import Chip8.Proofs.Console.Restart

/-!
# Consoles that keep a record

A console that writes down what it has its machine do: the keys that it gives it, the cycles that it
runs and what came of them, and how it starts it over. Without the record it is the console. In each
of its turns it rests, does something beside its machine, runs a cycle by hand, starts over, or runs
the cycles that are due, and the record says which.
-/
namespace Chip8

/-- What the desktop calls a console for. -/
inductive Callback where
  | resumed (desktop : Desktop)
  | window (desktop : Desktop) (event : WindowEvent)
  /-- The program may run. -/
  | aboutToWait
  deriving DecidableEq, Repr

namespace Callback

def isSpace : Callback → Bool
  | .window _ (.keyInput input) => input == ⟨.named .space, true, false⟩
  | _ => false

def isRestart : Callback → Bool
  | .window _ (.keyInput input) => input == ⟨.named .backspace, true, false⟩
  | _ => false

def isResumed : Callback → Bool
  | .resumed _ => true
  | _ => false

end Callback

structure Turn where
  now : Nat
  callback : Callback
  deriving DecidableEq, Repr

/-- Something that a console has its machine do, and what comes of it. -/
inductive Deed where
  | polled (keys : Keypad)
  | cycled (result : Except Fault Cycle)
  | reset
  | loaded (result : Except Fault Unit)

/-- A cycle that ends a program: it faults, or it runs into the halt marker. -/
def Cycle.ends : Except Fault Cycle → Bool
  | .error _ => true
  | .ok (.decodeFault word) => word == 0x0EFD
  | .ok _ => false

namespace Deed

def result? : Deed → Option (Except Fault Cycle)
  | .cycled result => some result
  | _ => none

/-- What stops a console: a cycle that ends its program, and a program that cannot be loaded. -/
def halts : Deed → Bool
  | .cycled result => Cycle.ends result
  | .loaded (.error _) => true
  | _ => false

end Deed

namespace Console

/-- The reaction to a turn. There is none if more cycles are due than `patience` allows. -/
def take (console : Console) (patience : Nat) (turn : Turn) : Option Reaction :=
  match turn.callback with
  | .resumed desktop => some (console.resumed desktop turn.now)
  | .window desktop event => some (console.windowEvent desktop turn.now event)
  | .aboutToWait => console.aboutToWait patience turn.now

/-- The console after turns one after another, whether or not it asked to leave. -/
def attend (console : Console) (patience : Nat) : List Turn → Option Console
  | [] => some console
  | turn :: rest =>
    (console.take patience turn).bind fun reaction => reaction.console.attend patience rest

/-- The space bar goes down and runs a cycle by hand. -/
def handles (console : Console) (callback : Callback) : Bool :=
  callback.isSpace && console.stepThrough && !console.halted

end Console

/-- A console with a record of what it has had its machine do, the earliest first. -/
structure Recorder where
  console : Console
  deeds : List Deed

namespace Recorder

def start (console : Console) : Recorder := ⟨console, []⟩

def results (recorder : Recorder) : List (Except Fault Cycle) :=
  recorder.deeds.filterMap Deed.result?

def poll (recorder : Recorder) : Recorder :=
  ⟨recorder.console.poll.1, recorder.deeds ++ [.polled recorder.console.keyboard.keypad]⟩

def runCycle (recorder : Recorder) : Recorder :=
  ⟨recorder.console.runCycle.1, recorder.deeds ++ [.cycled recorder.console.machine.step.result]⟩

def restart (recorder : Recorder) (now : Nat) : Recorder :=
  ⟨(recorder.console.restart now).1,
    recorder.deeds ++ [.reset, .loaded recorder.console.cleared.loadRom.2.1]⟩

def advance (recorder : Recorder) (period : Nat) : Recorder :=
  let after := recorder.runCycle
  { after with console := after.console.atTime (after.console.lastCycle + period) }

def catchUp (period now : Nat) : Nat → Recorder → Option Recorder
  | 0, recorder => if recorder.console.isDue period now then none else some recorder
  | patience + 1, recorder =>
    if recorder.console.isDue period now then catchUp period now patience (recorder.advance period)
    else some recorder

def aboutToWait (recorder : Recorder) (patience now : Nat) : Option Recorder :=
  if recorder.console.stepThrough || recorder.console.halted then some recorder
  else catchUp recorder.console.period now patience recorder.poll

def keyAction (recorder : Recorder) (now : Nat) (key : Window.Key) (pressed : Bool) : Recorder :=
  match key with
  | .named .backspace => if pressed then recorder.restart now else recorder
  | .named .space =>
    if pressed && recorder.console.stepThrough && !recorder.console.halted then
      recorder.poll.runCycle
    else recorder
  | .character text => { recorder with console := (recorder.console.typed text pressed).1 }
  | _ => recorder

def windowEvent (recorder : Recorder) (desktop : Desktop) (now : Nat) : WindowEvent → Recorder
  | .keyInput input =>
    if input.repeated then recorder else recorder.keyAction now input.key input.pressed
  | .redrawRequested => { recorder with console := (recorder.console.redraw desktop).console }
  | _ => recorder

/-- What a turn does. -/
def take (recorder : Recorder) (patience : Nat) (turn : Turn) : Option Recorder :=
  match turn.callback with
  | .resumed desktop =>
    some { recorder with console := (recorder.console.resumed desktop turn.now).console }
  | .window desktop event => some (recorder.windowEvent desktop turn.now event)
  | .aboutToWait => recorder.aboutToWait patience turn.now

/-- What turns do one after another. -/
def attend (recorder : Recorder) (patience : Nat) : List Turn → Option Recorder
  | [] => some recorder
  | turn :: rest => (recorder.take patience turn).bind fun after => after.attend patience rest

variable {recorder after : Recorder} {patience : Nat} {turn : Turn}

@[simp] theorem poll_console (recorder : Recorder) :
    recorder.poll.console = recorder.console.poll.1 := rfl

@[simp] theorem poll_deeds (recorder : Recorder) :
    recorder.poll.deeds = recorder.deeds ++ [.polled recorder.console.keyboard.keypad] := rfl

@[simp] theorem runCycle_console (recorder : Recorder) :
    recorder.runCycle.console = recorder.console.runCycle.1 := rfl

@[simp] theorem runCycle_deeds (recorder : Recorder) :
    recorder.runCycle.deeds =
      recorder.deeds ++ [.cycled recorder.console.machine.step.result] := rfl

@[simp] theorem restart_console (recorder : Recorder) (now : Nat) :
    (recorder.restart now).console = (recorder.console.restart now).1 := rfl

@[simp] theorem restart_deeds (recorder : Recorder) (now : Nat) :
    (recorder.restart now).deeds =
      recorder.deeds ++ [.reset, .loaded recorder.console.cleared.loadRom.2.1] := rfl

theorem results_poll (recorder : Recorder) : recorder.poll.results = recorder.results := by
  simp [results, Deed.result?]

theorem results_runCycle (recorder : Recorder) :
    recorder.runCycle.results = recorder.results ++ [recorder.console.machine.step.result] := by
  simp [results, Deed.result?]

/-! ## Without the record -/

theorem advance_console (recorder : Recorder) (period : Nat) :
    (recorder.advance period).console =
      recorder.console.runCycle.1.atTime (recorder.console.lastCycle + period) := by
  show recorder.console.runCycle.1.atTime (recorder.console.runCycle.1.lastCycle + period) = _
  rw [Console.runCycle_lastCycle]

/-- Catching up writes down the stretch of cycles that it runs. -/
theorem catchUp_eq (period now patience : Nat) (state : Console.CatchUp) (deeds : List Deed) :
    catchUp period now patience ⟨state.console, deeds⟩ =
      (Console.catchUp period now patience state).map fun caught =>
        ⟨caught.console, deeds ++
          (state.console.stretch (caught.cycles - state.cycles)).results.map .cycled⟩ := by
  induction patience generalizing state deeds with
  | zero =>
    cases due : state.console.isDue period now with
    | true => simp [catchUp, Console.catchUp, due]
    | false => simp [catchUp, Console.catchUp, due, Console.stretch]
  | succ patience ih =>
    cases due : state.console.isDue period now with
    | false => simp [catchUp, Console.catchUp, due, Console.stretch]
    | true =>
      have running := (Console.isDue_iff.mp due).1
      have advanced : advance ⟨state.console, deeds⟩ period =
          ⟨(state.advance period).console,
            deeds ++ [.cycled state.console.machine.step.result]⟩ := by
        rw [Console.advance_console, ← advance_console ⟨state.console, deeds⟩]
        rfl
      -- one cycle is written down here, and the hypothesis has the stretch without it
      rw [Console.catchUp_succ_of_due due]
      simp only [catchUp, due, if_true, advanced, ih]
      refine Option.map_congr fun caught found => ?_
      obtain ⟨n, ran, _⟩ := Console.catchUp_ran found
      have count : caught.cycles - state.cycles = n + 1 := by
        have counted : caught.cycles = state.cycles + 1 + n := ran.cycles_eq
        omega
      have later : caught.cycles - (state.advance period).cycles = n := by
        have counted := ran.cycles_eq
        omega
      rw [count, later, Console.stretch_succ running, Console.advance_console,
        Console.stretch_atTime, List.append_assoc]
      rfl

/-- When the program may run a console writes down the frame that it comes to. -/
theorem aboutToWait_eq (recorder : Recorder) (patience now : Nat) :
    recorder.aboutToWait patience now =
      (recorder.console.catchUpNow patience now).map fun caught =>
        if recorder.console.stepThrough || recorder.console.halted then recorder
        else ⟨caught.console, recorder.poll.deeds ++
          (recorder.console.poll.1.stretch caught.cycles).results.map .cycled⟩ := by
  rcases Console.resting_or_running recorder.console with resting | ⟨free, running⟩
  · rw [Console.catchUpNow_of_resting resting]
    rcases resting with rest | rest <;> simp [aboutToWait, rest]
  · rw [Console.catchUpNow_of_running free running]
    simp only [aboutToWait, free, running, Bool.or_self, Bool.false_eq_true, if_false]
    exact catchUp_eq _ now patience recorder.console.readied recorder.poll.deeds

theorem keyAction_console (recorder : Recorder) (now : Nat) (key : Window.Key) (pressed : Bool) :
    (recorder.keyAction now key pressed).console =
      (recorder.console.keyAction now key pressed).1 := by
  cases key with
  | character _ | dead _ => rfl
  | named key =>
    cases key with
    | backspace | f1 => cases pressed <;> rfl
    | space =>
      simp only [keyAction, Console.keyAction]
      split
      · rfl
      · rfl
    | _ => rfl

theorem windowEvent_console (recorder : Recorder) (desktop : Desktop) (now : Nat)
    (event : WindowEvent) :
    (recorder.windowEvent desktop now event).console =
      (recorder.console.windowEvent desktop now event).console := by
  cases event with
  | keyInput input =>
    simp only [windowEvent, Console.windowEvent, Console.keyInput]
    split
    · rfl
    · split
      case isTrue escape =>
        rw [escape]
        rfl
      case isFalse other => exact keyAction_console recorder now input.key input.pressed
  | closeRequested | redrawRequested | ignored => rfl

/-- Without the record a turn of a recorder is a turn of its console. -/
theorem take_console (recorder : Recorder) (patience : Nat) (turn : Turn) :
    (recorder.take patience turn).map Recorder.console =
      (recorder.console.take patience turn).map Reaction.console := by
  obtain ⟨now, callback⟩ := turn
  cases callback with
  | resumed desktop => rfl
  | window desktop event => exact congrArg some (windowEvent_console recorder desktop now event)
  | aboutToWait =>
    show (recorder.aboutToWait patience now).map Recorder.console =
      (recorder.console.aboutToWait patience now).map Reaction.console
    rw [aboutToWait_eq, Console.aboutToWait_eq, Option.map_map, Option.map_map]
    refine Option.map_congr fun caught found => ?_
    rcases Console.resting_or_running recorder.console with resting | ⟨free, running⟩
    · rw [Console.catchUpNow_of_resting resting, Option.some.injEq] at found
      subst found
      rcases resting with rest | rest <;> simp [rest, Console.settled]
    · simp [free, running, Console.settled]

theorem attend_console (recorder : Recorder) (patience : Nat) (turns : List Turn) :
    (recorder.attend patience turns).map Recorder.console =
      recorder.console.attend patience turns := by
  induction turns generalizing recorder with
  | nil => rfl
  | cons turn rest ih =>
    have first := take_console recorder patience turn
    unfold attend Console.attend
    cases taken : recorder.take patience turn with
    | none =>
      rw [taken, Option.map_none] at first
      rw [Option.map_eq_none_iff.mp first.symm]
      rfl
    | some after =>
      rw [taken, Option.map_some] at first
      obtain ⟨reaction, answered, same⟩ := Option.map_eq_some_iff.mp first.symm
      rw [answered, Option.bind_some, Option.bind_some, same]
      exact ih after

theorem attend_append (recorder : Recorder) (patience : Nat) (first second : List Turn) :
    recorder.attend patience (first ++ second) =
      (recorder.attend patience first).bind fun after => after.attend patience second := by
  induction first generalizing recorder with
  | nil => rfl
  | cons turn rest ih =>
    simp only [List.cons_append, attend, Option.bind_assoc, ih]

end Recorder

/-! ## What a turn can do -/

/-- What a console keeps that does something beside its machine. -/
structure Console.Aside (before after : Console) : Prop where
  machine : after.machine = before.machine
  shown : after.display.shown = before.display.shown
  scale : after.display.scale = before.display.scale
  stepThrough : after.stepThrough = before.stepThrough
  halted : after.halted = before.halted

namespace Console

variable {console : Console}

theorem Aside.refl (console : Console) : console.Aside console :=
  ⟨rfl, rfl, rfl, rfl, rfl⟩

theorem typed_aside (console : Console) (text : String) (pressed : Bool) :
    console.Aside (console.typed text pressed).1 ∧
      (console.typed text pressed).1.lastCycle = console.lastCycle := by
  unfold typed
  split
  · exact ⟨.refl console, rfl⟩
  · exact ⟨{ Aside.refl console with }, rfl⟩

theorem redraw_aside (console : Console) (desktop : Desktop) :
    console.Aside (console.redraw desktop).console ∧
      (console.redraw desktop).console.lastCycle = console.lastCycle := by
  obtain ⟨dirty, surface, drawn⟩ := redraw_console console desktop
  rw [drawn]
  exact ⟨⟨rfl, rfl, rfl, rfl, rfl⟩, rfl⟩

theorem resumed_aside (console : Console) (desktop : Desktop) (now : Nat) :
    console.Aside (console.resumed desktop now).console := by
  obtain ⟨time, surface, opened⟩ := resumed_placed console desktop now
  rw [opened]
  exact ⟨rfl, rfl, rfl, rfl, rfl⟩

end Console

namespace Recorder

/-- A console after the cycles that were due, with the results in its record. -/
def caughtUp (recorder : Recorder) (n : Nat) : Recorder :=
  let ran := recorder.console.poll.1.stretch n
  ⟨ran.console.atTime (recorder.console.lastCycle + n * recorder.console.period),
    recorder.poll.deeds ++ ran.results.map .cycled⟩

@[simp] theorem caughtUp_console (recorder : Recorder) (n : Nat) :
    (recorder.caughtUp n).console = (recorder.console.poll.1.stretch n).console.atTime
      (recorder.console.lastCycle + n * recorder.console.period) := rfl

@[simp] theorem caughtUp_deeds (recorder : Recorder) (n : Nat) :
    (recorder.caughtUp n).deeds = recorder.deeds ++ .polled recorder.console.keyboard.keypad ::
      (recorder.console.poll.1.stretch n).results.map .cycled := by
  simp [caughtUp]

theorem results_caughtUp (recorder : Recorder) (n : Nat) :
    (recorder.caughtUp n).results =
      recorder.results ++ (recorder.console.poll.1.stretch n).results := by
  have cycled : Deed.result? ∘ Deed.cycled = some := rfl
  have polled : ∀ keys, Deed.result? (.polled keys) = none := fun _ => rfl
  rw [results, caughtUp_deeds, List.filterMap_append, List.filterMap_cons_none (polled _),
    List.filterMap_map, cycled, List.filterMap_some]
  rfl

inductive TurnCase (recorder : Recorder) (turn : Turn) : Recorder → Prop where
  | rests (waits : turn.callback = .aboutToWait)
    (resting : recorder.console.stepThrough = true ∨ recorder.console.halted = true) :
    TurnCase recorder turn recorder
  | aside {console : Console} (other : turn.callback ≠ .aboutToWait)
    (unhandled : recorder.console.handles turn.callback = false)
    (kept : turn.callback.isRestart = false) (same : recorder.console.Aside console)
    (clock : turn.callback.isResumed = false → console.lastCycle = recorder.console.lastCycle) :
    TurnCase recorder turn { recorder with console := console }
  | byHand (handled : recorder.console.handles turn.callback = true) :
    TurnCase recorder turn recorder.poll.runCycle
  | startsOver (pressed : turn.callback.isRestart = true) :
    TurnCase recorder turn (recorder.restart turn.now)
  | runs (n : Nat) (waits : turn.callback = .aboutToWait)
    (free : recorder.console.stepThrough = false) (running : recorder.console.halted = false)
    (length : (recorder.console.poll.1.stretch n).results.length = n)
    (in_time : 0 < n * recorder.console.period →
      recorder.console.lastCycle + n * recorder.console.period ≤ turn.now)
    (idle : (recorder.caughtUp n).console.isDue recorder.console.period turn.now = false) :
    TurnCase recorder turn (recorder.caughtUp n)

variable {recorder after : Recorder} {patience now : Nat} {turn : Turn}

theorem aboutToWait_cases (taken : recorder.aboutToWait patience now = some after) :
    TurnCase recorder ⟨now, .aboutToWait⟩ after := by
  rw [aboutToWait_eq] at taken
  obtain ⟨caught, found, rfl⟩ := Option.map_eq_some_iff.mp taken
  rcases Console.resting_or_running recorder.console with resting | ⟨free, running⟩
  · have rests : (recorder.console.stepThrough || recorder.console.halted) = true := by
      simpa using resting
    rw [if_pos rests]
    exact .rests rfl resting
  · rw [Console.catchUpNow_of_running free running] at found
    obtain ⟨n, ran, idle⟩ := Console.catchUp_ran found
    have count : caught.cycles = n := ran.cycles_eq.trans (Nat.zero_add n)
    have left : recorder.caughtUp n = ⟨caught.console, recorder.poll.deeds ++
        (recorder.console.poll.1.stretch caught.cycles).results.map .cycled⟩ := by
      rw [count, ran.console_eq]
      rfl
    simp only [free, running, Bool.or_self, Bool.false_eq_true, if_false, ← left]
    refine .runs n rfl free running ran.results_length ran.in_time ?_
    rw [left]
    exact idle

/-- A key that neither runs a cycle nor starts over does something beside the machine. -/
theorem keyInput_aside {input : Window.KeyInput} {console : Console} (desktop : Desktop)
    (hand : recorder.console.handles (.window desktop (.keyInput input)) = false)
    (other : input ≠ ⟨.named .backspace, true, false⟩)
    (same : recorder.console.Aside console ∧ console.lastCycle = recorder.console.lastCycle) :
    TurnCase recorder ⟨now, .window desktop (.keyInput input)⟩
      { recorder with console := console } := by
  refine .aside nofun hand ?_ same.1 fun _ => same.2
  simp [Callback.isRestart, other]

theorem keyAction_cases (recorder : Recorder) (desktop : Desktop) (now : Nat) (key : Window.Key)
    (pressed : Bool) :
    TurnCase recorder ⟨now, .window desktop (.keyInput ⟨key, pressed, false⟩)⟩
      (recorder.keyAction now key pressed) := by
  have still : recorder.console.Aside recorder.console ∧
      recorder.console.lastCycle = recorder.console.lastCycle := ⟨.refl _, rfl⟩
  cases key with
  | character text =>
    exact keyInput_aside desktop (by simp [Console.handles, Callback.isSpace]) (by simp)
      (Console.typed_aside recorder.console text pressed)
  | dead mark =>
    exact keyInput_aside desktop (by simp [Console.handles, Callback.isSpace]) (by simp) still
  | named key =>
    cases key with
    | backspace =>
      cases pressed with
      | true => exact .startsOver rfl
      | false => exact keyInput_aside desktop rfl (by simp) still
    | space =>
      have hand : recorder.console.handles (.window desktop
          (.keyInput ⟨.named .space, pressed, false⟩)) =
            (pressed && recorder.console.stepThrough && !recorder.console.halted) := by
        cases pressed <;> rfl
      simp only [keyAction, ← hand]
      split
      case isTrue handled => exact .byHand handled
      case isFalse unhandled =>
        exact keyInput_aside desktop (Bool.eq_false_iff.mpr unhandled) (by simp) still
    | _ =>
      exact keyInput_aside desktop (by simp [Console.handles, Callback.isSpace]) (by simp) still

theorem windowEvent_cases (recorder : Recorder) (desktop : Desktop) (now : Nat)
    (event : WindowEvent) :
    TurnCase recorder ⟨now, .window desktop event⟩ (recorder.windowEvent desktop now event) := by
  cases event with
  | closeRequested | ignored => exact .aside nofun rfl rfl (.refl _) fun _ => rfl
  | redrawRequested =>
    obtain ⟨same, clock⟩ := Console.redraw_aside recorder.console desktop
    exact .aside nofun rfl rfl same fun _ => clock
  | keyInput input =>
    obtain ⟨key, pressed, repeated⟩ := input
    cases repeated with
    | false => exact keyAction_cases recorder desktop now key pressed
    | true =>
      exact keyInput_aside desktop (by simp [Console.handles, Callback.isSpace]) (by simp)
        ⟨.refl _, rfl⟩

theorem take_cases (taken : recorder.take patience turn = some after) :
    TurnCase recorder turn after := by
  obtain ⟨now, callback⟩ := turn
  cases callback with
  | resumed desktop =>
    cases taken
    exact .aside nofun rfl rfl (Console.resumed_aside _ desktop now) nofun
  | window desktop event =>
    cases taken
    exact windowEvent_cases recorder desktop now event
  | aboutToWait => exact aboutToWait_cases taken

/-! ## Turns one after another -/

variable {turns : List Turn}

/-- What each turn keeps, turns one after another keep. -/
theorem attend_induction {P : Recorder → Prop}
    (keeps : ∀ turn ∈ turns, ∀ before after, TurnCase before turn after → P before → P after)
    (before : P recorder) (attended : recorder.attend patience turns = some after) : P after := by
  induction turns generalizing recorder with
  | nil =>
    cases attended
    exact before
  | cons turn rest ih =>
    obtain ⟨next, taken, attended⟩ := Option.bind_eq_some_iff.mp attended
    have first := keeps turn (by simp) recorder next (take_cases taken) before
    exact ih (fun other member => keeps other (List.mem_cons_of_mem _ member)) first attended

/-- Where each turn is answered and keeps something, so are turns one after another. -/
theorem attend_answers {P : Recorder → Prop}
    (answers : ∀ turn ∈ turns, ∀ before, P before →
      ∃ after, before.take patience turn = some after ∧ P after)
    (before : P recorder) : ∃ after, recorder.attend patience turns = some after ∧ P after := by
  induction turns generalizing recorder with
  | nil => exact ⟨recorder, rfl, before⟩
  | cons turn rest ih =>
    obtain ⟨next, taken, first⟩ := answers turn (by simp) recorder before
    obtain ⟨after, attended, later⟩ :=
      ih (fun other member => answers other (List.mem_cons_of_mem _ member)) first
    refine ⟨after, ?_, later⟩
    rw [attend, taken, Option.bind_some, attended]

end Recorder
end Chip8
