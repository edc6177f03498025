import Chip8.Proofs.Cycle
import Chip8.Proofs.Execution
import Chip8.Proofs.Rendering

/-!
# The display mirrors the screen

The screen of a machine and what its display was given last are changed in different places: by the
instructions and by the events that follow them. They never differ after an operation, so every real
pixel shows the pixel of the screen that it belongs to.
-/
namespace Chip8

namespace Event

/-- No display changes at an event. -/
def Quiet (event : Event) : Prop :=
  event.isDisplayReset = false ∧ event.shown? = none

def AllQuiet (events : List Event) : Prop :=
  ∀ event ∈ events, event.Quiet

theorem AllQuiet.cons {event : Event} {events : List Event} (first : event.Quiet)
    (others : AllQuiet events) : AllQuiet (event :: events) := by
  intro other member
  cases member with
  | head => exact first
  | tail _ member => exact others other member

end Event

namespace Display

variable {display : Display} {events : List Event}

/-- The real pixel at a column and a row stands at the place that they count up to. -/
theorem getElem?_buffer_at (display : Display) {X Y : Nat} (column : X < display.width)
    (row : Y < display.height) :
    display.buffer[Y * display.width + X]? =
      some (decide (display.shown.pixel (X / display.scale) (Y / display.scale) = 1)) := by
  obtain ⟨quotient, remainder⟩ := (Panel.place_iff Y column).mp rfl
  have inside : Y * display.width + X < display.width * display.height := by
    calc Y * display.width + X < Y * display.width + display.width := Nat.add_lt_add_left column _
      _ = (Y + 1) * display.width := (Nat.succ_mul Y _).symm
      _ ≤ display.height * display.width := Nat.mul_le_mul_right _ row
      _ = display.width * display.height := Nat.mul_comm _ _
  rw [getElem?_buffer, if_pos inside, quotient, remainder, Screen.pixel]
  cases display.shown.isLit (X / display.scale) (Y / display.scale) <;> rfl

theorem follow_append (display : Display) (events more : List Event) :
    display.follow (events ++ more) = (display.follow events).follow more :=
  List.foldl_append

theorem observe_quiet (display : Display) {event : Event} (quiet : event.Quiet) :
    display.observe event = display := by
  cases event with
  | displayReset => cases quiet.1
  | screenShown screen => cases quiet.2
  | _ => rfl

theorem follow_quiet (quiet : Event.AllQuiet events) : display.follow events = display := by
  induction events with
  | nil => rfl
  | cons event rest ih =>
    have first := observe_quiet display (quiet event (by simp))
    rw [follow, List.foldl_cons, first]
    exact ih fun event member => quiet event (List.mem_cons_of_mem _ member)

theorem observe_scale (display : Display) (event : Event) :
    (display.observe event).scale = display.scale := by
  cases event <;> rfl

theorem follow_scale (display : Display) (events : List Event) :
    (display.follow events).scale = display.scale := by
  induction events generalizing display with
  | nil => rfl
  | cons event rest ih => exact (ih (display.observe event)).trans (observe_scale display event)

end Display

namespace Machine

variable {machine : Machine}

/-! ## What the display is told -/

theorem tick_quiet (machine : Machine) : Event.AllQuiet machine.tick.2 := by
  intro event member
  rw [tick_events machine event member]
  exact ⟨rfl, rfl⟩

theorem countCycle_quiet (machine : Machine) : Event.AllQuiet machine.countCycle.2 := by
  intro event member
  rw [countCycle_events machine event member]
  exact ⟨rfl, rfl⟩

/-- No instruction tells the display anything by itself. -/
theorem execute_quiet {instruction : Instruction} {effect : Effect}
    (done : machine.execute instruction = .ok effect) : Event.AllQuiet effect.events := by
  intro event member
  rcases execute_events done event member with rfl | ⟨x, rfl⟩ | ⟨x, value, rfl⟩ <;> exact ⟨rfl, rfl⟩

theorem applyKeys_quiet (machine : Machine) (keys : Keypad) :
    Event.AllQuiet (machine.applyKeys keys).2 := by
  intro event member
  rcases applyKeys_events machine keys event member with rfl | ⟨key, x, rfl⟩ <;> exact ⟨rfl, rfl⟩

theorem load_quiet (machine : Machine) (program : List UInt8) :
    Event.AllQuiet (machine.load program).events := by
  intro event member
  rw [load_events machine program event member]
  exact ⟨rfl, rfl⟩

/-- A display that is told nothing and a screen that does not change stay equal. -/
theorem quiet_shown {display : Display} {events : List Event} {after : Machine}
    (mirrors : display.shown = machine.screen) (quiet : Event.AllQuiet events)
    (same : after.screen = machine.screen) :
    (display.follow events).shown = after.screen := by
  rw [Display.follow_quiet quiet, mirrors, same]

theorem countCycle_follow (machine : Machine) (display : Display) :
    display.follow machine.countCycle.2 = display :=
  Display.follow_quiet (countCycle_quiet machine)

/-- After an instruction the display shows the screen, which was handed over if it has changed. -/
theorem moved_shown {word : UInt16} {instruction : Instruction} {effect : Effect}
    {display : Display} (mirrors : display.shown = machine.screen)
    (done : machine.execute instruction = .ok effect) :
    (display.follow (.fetched machine.counter word instruction :: effect.events ++
      (machine.moved effect).presented instruction)).shown = (machine.moved effect).screen := by
  have quiet : Event.AllQuiet (.fetched machine.counter word instruction :: effect.events) :=
    .cons ⟨rfl, rfl⟩ (execute_quiet done)
  rw [Display.follow_append, Display.follow_quiet quiet]
  cases draws : instruction.draws with
  | true =>
    rw [presented, if_pos draws]
    rfl
  | false =>
    have kept : instruction.part? ≠ some .screen := fun written =>
      Bool.eq_false_iff.mp draws ((Instruction.draws_iff instruction).mpr written)
    have same : effect.machine.screen = machine.screen := execute_same done .screen kept
    rw [presented, if_neg (Bool.eq_false_iff.mp draws)]
    exact mirrors.trans same.symm

theorem step_shown {display : Display} (mirrors : display.shown = machine.screen) :
    (display.follow machine.step.events).shown = machine.step.machine.screen := by
  have way := step_cases machine
  generalize machine.step = outcome at way ⊢
  cases way with
  | waits wait =>
    rw [counted, List.nil_append, countCycle_follow, countCycle_screen]
    exact mirrors
  | unreadable free unread => exact mirrors
  | skips free read unknown =>
    rw [counted, Display.follow_append, countCycle_follow, countCycle_screen]
    exact mirrors
  | faults free read decoded failed => exact mirrors
  | executes free read decoded done =>
    rw [counted, Display.follow_append, countCycle_follow, countCycle_screen]
    exact moved_shown mirrors done

/-- After every operation the display shows the screen, if it did before. -/
theorem apply_shown {display : Display} (mirrors : display.shown = machine.screen)
    (operation : Operation) :
    (display.follow (machine.apply operation).events).shown =
      (machine.apply operation).machine.screen := by
  cases operation with
  | load program =>
    obtain ⟨memory, same⟩ := load_eq machine program
    refine quiet_shown mirrors (load_quiet machine program) ?_
    show (machine.load program).machine.screen = machine.screen
    rw [same]
  | step => exact step_shown mirrors
  | tick => exact quiet_shown mirrors (tick_quiet machine) rfl
  | input keys =>
    obtain ⟨registers, keyWait, _, same⟩ := applyKeys_eq machine keys
    refine quiet_shown mirrors (applyKeys_quiet machine keys) ?_
    show (machine.applyKeys keys).1.screen = machine.screen
    rw [same]
  | reset => rfl

end Machine

/-! ## Watched machines -/

/-- A machine, its display, and a panel that stores the pixels of the display. -/
structure Watched where
  machine : Machine
  display : Display
  panel : Panel

inductive Watched.Action where
  | operate (operation : Operation)
  | render (frame : Array UInt8)

namespace Watched

def powerOn (rate : UInt32) (random : RandomSource) (scale : Nat) : Watched where
  machine := .powerOn rate random
  display := (Display.ofScale scale).follow Machine.resetEvents
  panel := (Panel.ofScale scale).follow Machine.resetEvents

def act (watched : Watched) : Action → Watched
  | .operate operation =>
    let outcome := watched.machine.apply operation
    { machine := outcome.machine
      display := watched.display.follow outcome.events
      panel := watched.panel.follow outcome.events }
  | .render frame => { watched with display := (watched.display.render frame).display }

def run (watched : Watched) (actions : List Action) : Watched :=
  actions.foldl act watched

/-- The display and the panel show the screen, at the scale they were made with. -/
structure Mirrors (watched : Watched) (scale : Nat) : Prop where
  scale : watched.display.scale = scale
  shown : watched.display.shown = watched.machine.screen
  stores : watched.panel.Stores watched.display

variable {watched : Watched} {scale : Nat}

theorem powerOn_mirrors (rate : UInt32) (random : RandomSource) (positive : 1 ≤ scale) :
    (powerOn rate random scale).Mirrors scale where
  scale := Nat.max_eq_right positive
  shown := rfl
  stores := (Panel.ofScale_stores scale).follow _

theorem Mirrors.act (mirrors : watched.Mirrors scale) (action : Action) :
    (watched.act action).Mirrors scale := by
  cases action with
  | operate operation =>
    constructor
    · exact (Display.follow_scale _ _).trans mirrors.scale
    · exact Machine.apply_shown mirrors.shown operation
    · exact mirrors.stores.follow _
  | render frame =>
    show Mirrors { watched with display := (watched.display.render frame).display } scale
    rw [Display.render_display]
    obtain ⟨side, width, height, pixels⟩ := mirrors.stores
    exact ⟨mirrors.scale, mirrors.shown, ⟨side, width, height, pixels⟩⟩

theorem Mirrors.run (mirrors : watched.Mirrors scale) (actions : List Action) :
    (watched.run actions).Mirrors scale := by
  induction actions generalizing watched with
  | nil => exact mirrors
  | cons action rest ih => exact ih (mirrors.act action)

/-- The real pixel at a column and a row is stored at the place that they count up to. -/
theorem Mirrors.buffer (mirrors : watched.Mirrors scale) {X Y : Nat} (column : X < 64 * scale)
    (row : Y < 32 * scale) :
    watched.display.buffer[Y * (64 * scale) + X]? =
      some (decide (watched.machine.screen.pixel (X / scale) (Y / scale) = 1)) := by
  have found := watched.display.getElem?_buffer_at (X := X) (Y := Y)
  rw [Display.width, Display.height, mirrors.scale, mirrors.shown] at found
  exact found column row

/-- Whatever happens to a machine with a display of some scale, a real pixel is lit exactly when the
pixel of the screen is that it belongs to; and the panel stores just these real pixels. -/
theorem display_mirrors_screen (rate : UInt32) (random : RandomSource) {scale : Nat}
    (positive : 1 ≤ scale) (actions : List Action) {X Y : Nat} (column : X < 64 * scale)
    (row : Y < 32 * scale) :
    ∃ after, after = (powerOn rate random scale).run actions ∧
      after.display.buffer[Y * (64 * scale) + X]? =
        some (decide (after.machine.screen.pixel (X / scale) (Y / scale) = 1)) ∧
      after.panel.pixels = after.display.buffer := by
  have mirrors := (powerOn_mirrors rate random positive).run actions
  exact ⟨_, rfl, mirrors.buffer column row, mirrors.stores.pixels⟩

/-- A program that draws the top row of the glyph of zero. -/
def topOfZero : List Action :=
  [.operate (.load [0xD0, 0x01]), .operate .step, .render #[]]

theorem topOfZero_shown :
    ((powerOn 500 (.constant 0) 2).run topOfZero).display.buffer[1 * (64 * 2) + 3]? =
      some true := by
  have lit : ((powerOn 500 (.constant 0) 2).run topOfZero).machine.screen.pixel (3 / 2) (1 / 2) =
      1 := by
    decide +kernel
  obtain ⟨_, rfl, shown, _⟩ := display_mirrors_screen 500 (.constant 0) (show 1 ≤ 2 by decide)
    topOfZero (show 3 < 64 * 2 by decide) (show 1 < 32 * 2 by decide)
  rw [lit] at shown
  exact shown

end Watched
end Chip8
