import Chip8.Proofs.Alike
import Chip8.Proofs.Console.Cycles
import Chip8.Proofs.Rendering

/-!
# Consoles that live alike

Two consoles whose machines are alike and that agree on all else but the time, and perhaps on what
only their windows are concerned with, do the same whatever happens to them, each by its own clock.
Where both windows are open, or neither is, they also put out the same.
-/
namespace Chip8

/-! ## Displays -/

/-- Two displays that show the same, and are equally dirty if that is asked for. -/
structure Display.Alike (marked : Prop) (a b : Display) : Prop where
  shown : a.shown = b.shown
  scale : a.scale = b.scale
  dirty : marked → a.dirty = b.dirty

namespace Display

variable {marked : Prop} {a b : Display}

theorem Alike.refl (marked : Prop) (display : Display) : display.Alike marked display :=
  ⟨rfl, rfl, fun _ => rfl⟩

theorem observe_alike (alike : a.Alike marked b) (event : Event) :
    (a.observe event).Alike marked (b.observe event) := by
  cases event with
  | displayReset => exact ⟨rfl, alike.scale, fun _ => rfl⟩
  | screenShown screen => exact ⟨rfl, alike.scale, fun _ => rfl⟩
  | _ => exact alike

theorem follow_alike (alike : a.Alike marked b) (events : List Event) :
    (a.follow events).Alike marked (b.follow events) := by
  induction events generalizing a b with
  | nil => exact alike
  | cons event rest ih => exact ih (observe_alike alike event)

/-- Rendering into frames of the same size goes alike. -/
theorem render_alike (alike : a.Alike marked b) {first second : Array UInt8}
    (sizes : marked → first.size = second.size) :
    (a.render first).display.Alike marked (b.render second).display ∧
      (marked → (a.render first).complete = (b.render second).complete) := by
  have measure : a.imageSize = b.imageSize := by
    simp only [imageSize, width, height, alike.scale]
  have complete : marked → (a.render first).complete = (b.render second).complete := by
    intro asked
    rw [render_complete, render_complete, measure, sizes asked]
  refine ⟨?_, complete⟩
  rw [render_display, render_display]
  refine ⟨alike.shown, alike.scale, fun asked => ?_⟩
  rw [complete asked, alike.dirty asked]

end Display

/-! ## Consoles -/

/-- Two consoles that live alike. Whether the display is dirty and how large the surface is concerns
only the window, and is compared only if that is asked for. -/
structure Console.Twins (windows : Prop) (a b : Console) : Prop where
  machine : a.machine.Alike b.machine
  display : a.display.Alike windows b.display
  rom : a.rom = b.rom
  keyboard : a.keyboard = b.keyboard
  stepThrough : a.stepThrough = b.stepThrough
  halted : a.halted = b.halted
  surface : windows → a.surface.map Array.size = b.surface.map Array.size

/-- What becomes of an output: the lines it leaves in the log, or the request that it makes. -/
def Output.effect (output : Output) : List Log.Line × Option Call :=
  (output.lines, output.call?)

structure Reaction.Alike (windows : Prop) (a b : Reaction) : Prop where
  console : a.console.Twins windows b.console
  outputs : windows → a.outputs.map Output.effect = b.outputs.map Output.effect
  verdict : windows → a.verdict = b.verdict

namespace Console

variable {windows : Prop} {a b : Console}

theorem Twins.absorb (twins : a.Twins windows b) {first second : Machine}
    (alike : first.Alike second) (events : List Event) :
    (a.absorb first events).Twins windows (b.absorb second events) :=
  { twins with machine := alike, display := Display.follow_alike twins.display events }

theorem poll_twins (twins : a.Twins windows b) :
    a.poll.1.Twins windows b.poll.1 ∧ a.poll.2 = b.poll.2 := by
  obtain ⟨machine, events⟩ := Machine.applyKeys_alike twins.machine a.keyboard.keypad
  unfold poll
  dsimp only
  rw [← twins.keyboard, ← events]
  exact ⟨twins.absorb machine _, rfl⟩

/-- The text of the state of a machine says nothing of its random source. -/
theorem stopped_lines {first second : Machine} (alike : first.Alike second) (fault : Fault) :
    (Notice.stopped fault first).lines = (Notice.stopped fault second).lines := by
  cases alike
  rfl

theorem dumped_lines {first second : Machine} (alike : first.Alike second) :
    (Notice.dumped first).lines = (Notice.dumped second).lines := by
  cases alike
  rfl

theorem runCycle_twins (twins : a.Twins windows b) :
    a.runCycle.1.Twins windows b.runCycle.1 ∧
      a.runCycle.2.map Notice.lines = b.runCycle.2.map Notice.lines := by
  obtain ⟨result, machine, events⟩ := Machine.step_alike twins.machine
  have after := twins.absorb machine a.machine.step.events
  have counter := twins.machine.counter
  unfold runCycle
  dsimp only
  rw [← result, ← events, ← counter, ← twins.stepThrough]
  split
  · split
    · exact ⟨{ after with halted := rfl }, rfl⟩
    · exact ⟨after, rfl⟩
  · exact ⟨after, rfl⟩
  · exact ⟨after, rfl⟩
  · refine ⟨{ after with halted := rfl }, ?_⟩
    simp only [List.map_append, List.map_cons, List.map_nil]
    rw [stopped_lines after.machine]

/-- Cycles one after another have the same results. -/
theorem stretch_twins (twins : a.Twins windows b) (n : Nat) :
    (a.stretch n).console.Twins windows (b.stretch n).console ∧
      (a.stretch n).results = (b.stretch n).results ∧
      (a.stretch n).notices.map Notice.lines = (b.stretch n).notices.map Notice.lines := by
  induction n generalizing a b with
  | zero => exact ⟨twins, rfl, rfl⟩
  | succ n ih =>
    cases running : a.halted with
    | true =>
      have same : b.halted = true := twins.halted.symm.trans running
      rw [stretch_of_halted running, stretch_of_halted same]
      exact ⟨twins, rfl, rfl⟩
    | false =>
      have same : b.halted = false := twins.halted.symm.trans running
      obtain ⟨after, lines⟩ := runCycle_twins twins
      obtain ⟨rest, results, later⟩ := ih after
      have result := (Machine.step_alike twins.machine).result
      rw [stretch_succ running, stretch_succ same]
      refine ⟨rest, ?_, ?_⟩
      · rw [result, results]
      · rw [List.map_append, List.map_append, lines, later]

/-! ## Starting over -/

/-- A console that starts over, before the program is loaded again. -/
def cleared (console : Console) : Console :=
  { console with
    machine := .powerOn console.machine.rate console.machine.random
    display := console.display.clear
    keyboard := .empty }

/-- What starting over reports before the program is loaded again. -/
def clearing : List Notice :=
  .restarting :: notices Machine.resetEvents

variable {console : Console}

theorem reset_eq (machine : Machine) :
    machine.reset = ⟨(), .powerOn machine.rate machine.random, Machine.resetEvents⟩ := rfl

/-- Starting over is to clear the console and to load the program. -/
theorem restart_eq (console : Console) (now : Nat) :
    console.restart now =
      match console.cleared.loadRom.2.1 with
      | .ok _ => ({ console.cleared.loadRom.1 with halted := false, lastCycle := now },
          clearing ++ console.cleared.loadRom.2.2)
      | .error fault => ({ console.cleared.loadRom.1 with halted := true },
          clearing ++ console.cleared.loadRom.2.2 ++ [.reloadFailed fault]) := by
  have darkened : console.display.follow Machine.resetEvents = console.display.clear := rfl
  unfold restart
  rw [reset_eq]
  dsimp only [absorb]
  rw [darkened]
  unfold loadRom cleared clearing
  dsimp only [absorb]
  generalize Machine.load _ _ = loaded
  obtain ⟨result, machine, events⟩ := loaded
  cases result <;> simp [notices]

theorem loadRom_twins (twins : a.Twins windows b) :
    a.loadRom.1.Twins windows b.loadRom.1 ∧ a.loadRom.2 = b.loadRom.2 := by
  obtain ⟨result, machine, events⟩ := Machine.load_alike twins.machine a.rom
  unfold loadRom
  dsimp only
  rw [← twins.rom, ← result, ← events]
  exact ⟨twins.absorb machine _, rfl⟩

theorem Twins.cleared_with (twins : a.Twins windows b) {first second : Machine}
    (alike : first.Alike second) :
    ({ a with machine := first, display := a.display.clear, keyboard := .empty }).Twins windows
      { b with machine := second, display := b.display.clear, keyboard := .empty } :=
  { twins with
    machine := alike
    display := ⟨rfl, twins.display.scale, fun _ => rfl⟩
    keyboard := rfl }

theorem cleared_twins (twins : a.Twins windows b) : a.cleared.Twins windows b.cleared := by
  have powered := Machine.powerOn_alike a.machine.rate twins.machine.bytes
  rw [cleared, cleared, ← twins.machine.rate]
  exact twins.cleared_with powered

/-- Twins stay twins when they are stopped or started at once, whatever their clocks say. -/
theorem Twins.switched (twins : a.Twins windows b) (halted : Bool) (first second : Nat) :
    ({ a with halted := halted, lastCycle := first }).Twins windows
      { b with halted := halted, lastCycle := second } :=
  { twins with halted := rfl }

theorem restart_twins (twins : a.Twins windows b) (first second : Nat) :
    (a.restart first).1.Twins windows (b.restart second).1 ∧
      (a.restart first).2 = (b.restart second).2 := by
  obtain ⟨loaded, same⟩ := loadRom_twins (cleared_twins twins)
  rw [restart_eq, restart_eq, ← same]
  split
  · exact ⟨loaded.switched false first second, rfl⟩
  · exact ⟨loaded.switched true _ _, rfl⟩

/-! ## The window -/

theorem typed_twins (twins : a.Twins windows b) (text : String) (pressed : Bool) :
    (a.typed text pressed).1.Twins windows (b.typed text pressed).1 ∧
      (a.typed text pressed).2 = (b.typed text pressed).2 := by
  unfold typed
  rw [← twins.keyboard]
  split
  · exact ⟨twins, rfl⟩
  · exact ⟨{ twins with keyboard := rfl }, rfl⟩

theorem stepByHand_twins (twins : a.Twins windows b) :
    a.stepByHand.1.Twins windows b.stepByHand.1 ∧
      a.stepByHand.2.map Notice.lines = b.stepByHand.2.map Notice.lines := by
  obtain ⟨polled, asked⟩ := poll_twins twins
  obtain ⟨after, lines⟩ := runCycle_twins polled
  refine ⟨after, ?_⟩
  simp only [stepByHand, List.map_append, asked, lines]

theorem keyAction_twins (twins : a.Twins windows b) (first second : Nat) (key : Window.Key)
    (pressed : Bool) :
    (a.keyAction first key pressed).1.Twins windows (b.keyAction second key pressed).1 ∧
      (a.keyAction first key pressed).2.map Notice.lines =
        (b.keyAction second key pressed).2.map Notice.lines := by
  unfold keyAction
  rw [← twins.stepThrough, ← twins.halted]
  split
  · split
    · obtain ⟨after, reported⟩ := restart_twins twins first second
      exact ⟨after, congrArg _ reported⟩
    · exact ⟨twins, rfl⟩
  · split
    · refine ⟨twins, ?_⟩
      simp only [List.map_cons, List.map_nil, dumped_lines twins.machine]
    · exact ⟨twins, rfl⟩
  · split
    · exact stepByHand_twins twins
    · exact ⟨twins, rfl⟩
  · obtain ⟨after, reported⟩ := typed_twins twins _ pressed
    exact ⟨after, congrArg _ reported⟩
  · exact ⟨twins, rfl⟩

/-- Notices with the same lines are outputs with the same effects. -/
theorem effects_of_lines {first second : List Notice}
    (lines : first.map Notice.lines = second.map Notice.lines) :
    (first.map Output.notice).map Output.effect = (second.map Output.notice).map Output.effect := by
  have pairs := congrArg (List.map fun text => (text, (none : Option Call))) lines
  rw [List.map_map, List.map_map] at pairs ⊢
  exact pairs

theorem keyInput_alike (twins : a.Twins windows b) (first second : Nat) (input : Window.KeyInput) :
    (a.keyInput first input).Alike windows (b.keyInput second input) := by
  unfold keyInput
  split
  · exact ⟨twins, fun _ => rfl, fun _ => rfl⟩
  · dsimp only
    split
    · exact ⟨twins, fun _ => rfl, fun _ => rfl⟩
    · obtain ⟨after, lines⟩ := keyAction_twins twins first second input.key input.pressed
      refine ⟨after, fun _ => ?_, fun _ => rfl⟩
      rw [List.map_cons, List.map_cons, effects_of_lines lines]

def rendered (console : Console) (frame : Array UInt8) : Console :=
  { console with
    display := (console.display.render frame).display
    surface := some (console.display.render frame).frame }

theorem redraw_of_none {console : Console} (closed : console.surface = none) (desktop : Desktop) :
    console.redraw desktop = console.ignore := by
  simp only [redraw, closed]

theorem redraw_of_some {console : Console} {frame : Array UInt8}
    (shown : console.surface = some frame) (desktop : Desktop) :
    console.redraw desktop =
      if (console.display.render frame).complete then
        ⟨console.rendered frame,
          .call .render :: (if desktop.renderWorks then [] else [.notice .renderFailed]), .goOn⟩
      else ⟨console.rendered frame, [], .fail brokenOff⟩ := by
  simp only [redraw, shown, rendered]

/-- A redraw changes nothing but what concerns the window. -/
theorem redraw_console (console : Console) (desktop : Desktop) : ∃ dirty surface,
    (console.redraw desktop).console =
      { console with display := { console.display with dirty := dirty }, surface := surface } := by
  rcases Option.eq_none_or_eq_some console.surface with closed | ⟨frame, shown⟩
  · rw [redraw_of_none closed]
    exact ⟨console.display.dirty, console.surface, rfl⟩
  · have left : (console.redraw desktop).console = console.rendered frame := by
      rw [redraw_of_some shown]
      split <;> rfl
    rw [left, rendered, Display.render_display]
    exact ⟨_, _, rfl⟩

theorem redraw_alike (twins : a.Twins windows b) (desktop : Desktop) :
    (a.redraw desktop).Alike windows (b.redraw desktop) := by
  rcases Classical.em windows with asked | never
  case inr =>
    obtain ⟨_, _, left⟩ := redraw_console a desktop
    obtain ⟨_, _, right⟩ := redraw_console b desktop
    refine ⟨?_, (absurd · never), (absurd · never)⟩
    rw [left, right]
    exact { twins with
      display := ⟨twins.display.shown, twins.display.scale, (absurd · never)⟩
      surface := (absurd · never) }
  case inl =>
    have sizes := twins.surface asked
    rcases Option.eq_none_or_eq_some a.surface with closed | ⟨first, shown⟩
    · have same : b.surface = none := by simpa [closed] using sizes.symm
      rw [redraw_of_none closed, redraw_of_none same]
      exact ⟨twins, fun _ => rfl, fun _ => rfl⟩
    · obtain ⟨second, same, size⟩ :
          ∃ second, b.surface = some second ∧ second.size = first.size := by
        simpa [shown, eq_comm] using sizes
      obtain ⟨display, complete⟩ :=
        Display.render_alike twins.display fun _ : windows => size.symm
      have after : (a.rendered first).Twins windows (b.rendered second) := by
        refine { twins with display := display, surface := fun _ => ?_ }
        simp only [rendered, Option.map_some, Display.size_render, size]
      rw [redraw_of_some shown, redraw_of_some same, ← complete asked]
      split
      · exact ⟨after, fun _ => rfl, fun _ => rfl⟩
      · exact ⟨after, fun _ => rfl, fun _ => rfl⟩

theorem windowEvent_alike (twins : a.Twins windows b) (desktop : Desktop) (first second : Nat)
    (event : WindowEvent) :
    (a.windowEvent desktop first event).Alike windows (b.windowEvent desktop second event) := by
  cases event with
  | closeRequested => exact ⟨twins, fun _ => rfl, fun _ => rfl⟩
  | keyInput input => exact keyInput_alike twins first second input
  | redrawRequested => exact redraw_alike twins desktop
  | ignored => exact ⟨twins, fun _ => rfl, fun _ => rfl⟩

theorem resumed_alike (twins : a.Twins windows b) (desktop : Desktop) (first second : Nat) :
    (a.resumed desktop first).Alike windows (b.resumed desktop second) := by
  have width : a.display.width = b.display.width := congrArg (Screen.width * ·) twins.display.scale
  have height : a.display.height = b.display.height :=
    congrArg (Screen.height * ·) twins.display.scale
  unfold resumed
  dsimp only
  rw [← width, ← height]
  split
  · exact ⟨twins, fun _ => rfl, fun _ => rfl⟩
  · split
    · exact ⟨twins, fun _ => rfl, fun _ => rfl⟩
    · exact ⟨{ twins with surface := fun _ => rfl }, fun _ => rfl, fun _ => rfl⟩

theorem settled_alike (twins : a.Twins windows b) {first second : List Notice}
    (lines : first.map Notice.lines = second.map Notice.lines) :
    (a.settled first).Alike windows (b.settled second) := by
  refine ⟨twins, fun asked => ?_, fun _ => rfl⟩
  have open_iff : a.surface.isSome = b.surface.isSome := by
    have sizes := congrArg Option.isSome (twins.surface asked)
    simpa using sizes
  simp only [settled, List.map_append, open_iff, twins.display.dirty asked, effects_of_lines lines]

/-! ## Whatever happens -/

structure Happened.Alike (windows : Prop) (first second : Happened) : Prop where
  reaction : first.reaction.Alike windows second.reaction
  results : first.results = second.results

theorem frame_alike (twins : a.Twins windows b) (cycles : Nat) :
    (a.frame cycles).Alike windows (b.frame cycles) := by
  rcases resting_or_running a with resting | ⟨free, running⟩
  · have same : b.stepThrough = true ∨ b.halted = true :=
      resting.imp twins.stepThrough.symm.trans twins.halted.symm.trans
    rw [frame_of_resting resting, frame_of_resting same]
    exact ⟨settled_alike twins rfl, rfl⟩
  · obtain ⟨polled, asked⟩ := poll_twins twins
    obtain ⟨after, results, lines⟩ := stretch_twins polled cycles
    rw [frame_of_running free running,
      frame_of_running (twins.stepThrough.symm.trans free) (twins.halted.symm.trans running)]
    refine ⟨settled_alike after ?_, results⟩
    rw [List.map_append, List.map_append, asked, lines]

inductive Happening where
  | resumed (desktop : Desktop)
  | window (desktop : Desktop) (event : WindowEvent)
  /-- The program may run, and so many cycles are due. -/
  | frame (cycles : Nat)

structure Moment where
  now : Nat
  happening : Happening

/-- The result of the cycle that an event of the window runs by hand, if it does. -/
def handResults (console : Console) : WindowEvent → List (Except Fault Cycle)
  | .keyInput ⟨.named .space, true, false⟩ =>
    if console.stepThrough && !console.halted then [console.poll.1.machine.step.result] else []
  | _ => []

theorem handResults_twins (twins : a.Twins windows b) (event : WindowEvent) :
    a.handResults event = b.handResults event := by
  obtain ⟨polled, _⟩ := poll_twins twins
  have stepped := Machine.step_alike polled.machine
  unfold handResults
  rw [twins.stepThrough, twins.halted, stepped.result]

def meet (console : Console) (moment : Moment) : Happened :=
  match moment.happening with
  | .resumed desktop => ⟨console.resumed desktop moment.now, []⟩
  | .window desktop event =>
    ⟨console.windowEvent desktop moment.now event, console.handResults event⟩
  | .frame cycles => console.frame cycles

def live (console : Console) : List Moment → List Happened
  | [] => []
  | moment :: rest =>
    let happened := console.meet moment
    happened :: happened.reaction.console.live rest

theorem meet_alike (twins : a.Twins windows b) {first second : Moment}
    (same : first.happening = second.happening) :
    (a.meet first).Alike windows (b.meet second) := by
  unfold meet
  rw [← same]
  split
  · exact ⟨resumed_alike twins _ _ _, rfl⟩
  · exact ⟨windowEvent_alike twins _ _ _ _, handResults_twins twins _⟩
  · exact frame_alike twins _

/-- Twins do the same whatever happens to them, each at its own times. -/
theorem live_alike (twins : a.Twins windows b) {first second : List Moment}
    (same : first.map Moment.happening = second.map Moment.happening) :
    List.Forall₂ (Happened.Alike windows) (a.live first) (b.live second) := by
  induction first generalizing a b second with
  | nil =>
    cases second with
    | nil => exact .nil
    | cons _ _ => cases same
  | cons moment rest ih =>
    cases second with
    | nil => cases same
    | cons other others =>
      obtain ⟨now, later⟩ := List.cons.inj same
      have met := meet_alike twins now
      exact .cons met (ih met.reaction.console later)

end Console
end Chip8
