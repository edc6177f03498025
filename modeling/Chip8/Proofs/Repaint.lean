import Chip8.Proofs.Mirror
import Mathlib.Data.List.Induction

/-!
# No lost repaint

A display that is not dirty has been rendered whole since the screen last changed. So the frame that
was written then is still the picture of the screen, whatever has happened to the machine and in
whatever frames, too short ones among them, the display was rendered.
-/
namespace Chip8

/-- The first bytes of a frame are the picture of a screen: four for each real pixel, row by row,
white if the pixel is lit that it belongs to and dark grey otherwise. -/
def Screen.Paints (screen : Screen) (scale : Nat) (frame : Array UInt8) : Prop :=
  ∀ X Y, X < 64 * scale → Y < 32 * scale →
    frame.extract (4 * (Y * (64 * scale) + X)) (4 * (Y * (64 * scale) + X) + 4) =
      if screen.pixel (X / scale) (Y / scale) = 1 then #[0xFF, 0xFF, 0xFF, 0xFF]
      else #[0x1A, 0x1A, 0x1A, 0xFF]

namespace Display

/-- What marks a display as dirty is just what it takes over. -/
theorem observe_clean_iff {display : Display} {event : Event} :
    (display.observe event).dirty = false ↔ display.dirty = false ∧ event.Quiet := by
  cases event with
  | displayReset | screenShown _ =>
    simp [observe, clear, present, Event.Quiet, Event.isDisplayReset, Event.shown?]
  | _ => simp [observe, Event.Quiet, Event.isDisplayReset, Event.shown?]

/-- A display that is not dirty after events was not before, and they told it nothing. -/
theorem follow_clean_iff {display : Display} {events : List Event} :
    (display.follow events).dirty = false ↔ display.dirty = false ∧ Event.AllQuiet events := by
  induction events generalizing display with
  | nil => simp [follow, Event.AllQuiet]
  | cons event rest ih =>
    show ((display.observe event).follow rest).dirty = false ↔ _
    rw [ih, observe_clean_iff, and_assoc, Event.AllQuiet, Event.AllQuiet, List.forall_mem_cons]

/-- Where a real pixel fits whole into a frame it is painted. -/
theorem extract_render_at (display : Display) {frame : Array UInt8} {X Y : Nat}
    (column : X < display.width) (row : Y < display.height)
    (fits : 4 * (Y * display.width + X) + 4 ≤ frame.size) :
    (display.render frame).frame.extract (4 * (Y * display.width + X))
        (4 * (Y * display.width + X) + 4) =
      if display.shown.pixel (X / display.scale) (Y / display.scale) = 1 then
        #[0xFF, 0xFF, 0xFF, 0xFF]
      else #[0x1A, 0x1A, 0x1A, 0xFF] := by
  rw [extract_render (display.getElem?_buffer_at column row) fits]
  simp only [colour, decide_eq_true_eq, litColour, darkColour]

/-- A frame that takes the whole image of a display becomes the picture of what is shown. -/
theorem paints_of_complete (display : Display) {frame : Array UInt8}
    (complete : (display.render frame).complete = true) :
    display.shown.Paints display.scale (display.render frame).frame := by
  intro X Y column row
  have found := display.getElem?_buffer_at column row
  rw [render_complete, decide_eq_true_eq, imageSize, ← size_buffer] at complete
  obtain ⟨there, _⟩ := Array.getElem?_eq_some_iff.mp found
  exact display.extract_render_at column row (by omega)

end Display

namespace Watched

variable {watched : Watched} {scale : Nat}

/-! ## One action -/

/-- A frame that takes the whole image of a display becomes the picture of the screen. -/
theorem Mirrors.paints (mirrors : watched.Mirrors scale) {frame : Array UInt8}
    (complete : (watched.display.render frame).complete = true) :
    watched.machine.screen.Paints scale (watched.display.render frame).frame := by
  have painted := watched.display.paints_of_complete complete
  rw [mirrors.scale, mirrors.shown] at painted
  exact painted

/-- After an action a display is clean only if it was rendered whole by it, or was clean before and
the screen has not changed. -/
theorem Mirrors.clean_act (mirrors : watched.Mirrors scale) {action : Action}
    (clean : (watched.act action).display.dirty = false) :
    (∃ frame, action = .render frame ∧ (watched.display.render frame).complete = true) ∨
      watched.display.dirty = false ∧
        (watched.act action).machine.screen = watched.machine.screen := by
  cases action with
  | operate operation =>
    obtain ⟨before, quiet⟩ := Display.follow_clean_iff.mp clean
    have after := (mirrors.act (.operate operation)).shown
    have same : (watched.act (.operate operation)).display = watched.display :=
      Display.follow_quiet quiet
    rw [same, mirrors.shown] at after
    exact .inr ⟨before, after.symm⟩
  | render frame =>
    cases complete : (watched.display.render frame).complete with
    | true => exact .inl ⟨frame, rfl, complete⟩
    | false =>
      have same : (watched.act (.render frame)).display = watched.display := by
        show (watched.display.render frame).display = watched.display
        rw [Display.render_display, complete]
        rfl
      rw [same] at clean
      exact .inr ⟨clean, rfl⟩

/-! ## Any actions -/

theorem run_concat (watched : Watched) (actions : List Action) (action : Action) :
    watched.run (actions ++ [action]) = (watched.run actions).act action := by
  simp [run]

/-- Among the actions the display was rendered whole, into a frame that is the picture of the screen
as it is after them. -/
def Painted (watched : Watched) (scale : Nat) (actions : List Action) : Prop :=
  ∃ earlier frame later, actions = earlier ++ .render frame :: later ∧
    ((watched.run earlier).display.render frame).complete = true ∧
    (watched.run actions).machine.screen.Paints scale
      ((watched.run earlier).display.render frame).frame

/-- What was painted is the picture as long as the screen stays the same. -/
theorem Painted.concat {actions : List Action} {action : Action}
    (painted : watched.Painted scale actions)
    (same : ((watched.run actions).act action).machine.screen =
      (watched.run actions).machine.screen) :
    watched.Painted scale (actions ++ [action]) := by
  obtain ⟨earlier, frame, later, split, complete, paints⟩ := painted
  refine ⟨earlier, frame, later ++ [action], ?_, complete, ?_⟩
  · rw [split, List.append_assoc]
    rfl
  · rw [run_concat, same]
    exact paints

theorem Mirrors.painted (mirrors : watched.Mirrors scale) (dirty : watched.display.dirty = true)
    {actions : List Action} (clean : (watched.run actions).display.dirty = false) :
    watched.Painted scale actions := by
  -- the last action has rendered the display, or it has left everything as the others had
  induction actions using List.reverseRecOn with
  | nil =>
    rw [show watched.run [] = watched from rfl, dirty] at clean
    cases clean
  | append_singleton actions action ih =>
    rw [run_concat] at clean
    rcases (mirrors.run actions).clean_act clean with ⟨frame, rfl, complete⟩ | ⟨before, same⟩
    · refine ⟨actions, frame, [], rfl, complete, ?_⟩
      rw [run_concat]
      exact (mirrors.run actions).paints complete
    · exact (ih before).concat same

/-- Whatever happens to a machine with a display, the display is not dirty only if it was rendered
whole before, and the frame that was written then is the picture of the screen as it is now. A frame
that is too short, and no other, is not rendered whole, and leaves the display as it was. -/
theorem clean_is_painted (rate : UInt32) (random : RandomSource) {scale : Nat}
    (positive : 1 ≤ scale) (actions : List Action) :
    ∃ start after, start = powerOn rate random scale ∧ after = start.run actions ∧
      (after.display.dirty = false → ∃ earlier frame later rendering,
        actions = earlier ++ .render frame :: later ∧
        rendering = (start.run earlier).display.render frame ∧ rendering.complete = true ∧
        after.machine.screen.Paints scale rendering.frame) ∧
      ∀ frame,
        ((after.display.render frame).complete = false ↔
          frame.size < 64 * scale * (32 * scale) * 4) ∧
        ((after.display.render frame).complete = false →
          (after.display.render frame).display = after.display) := by
  have mirrors := powerOn_mirrors rate random positive
  refine ⟨_, _, rfl, rfl, ?painted, fun frame => ⟨?short, ?kept⟩⟩
  case painted =>
    intro clean
    obtain ⟨earlier, frame, later, split, complete, paints⟩ := mirrors.painted rfl clean
    exact ⟨earlier, frame, later, _, split, rfl, complete, paints⟩
  case short =>
    rw [Display.render_complete, decide_eq_false_iff_not, Nat.not_le, Display.imageSize,
      Display.width, Display.height, (mirrors.run actions).scale, Screen.width, Screen.height]
  case kept =>
    intro short
    rw [Display.render_display, short]
    rfl

/-- Something is drawn, and a frame without room is rendered into. -/
def drawn : List Action :=
  [.operate (.load [0xD0, 0x01]), .operate .step, .render #[]]

/-- Then a frame with room is rendered into, and a key goes down. -/
def drawnAndPainted : List Action :=
  drawn ++ [.render (.replicate 8192 0)] ++ [.operate (.input ⟨1⟩)]

theorem drawn_painted :
    1 ≤ 1 ∧ ((powerOn 500 (.constant 0) 1).run drawnAndPainted).display.dirty = false ∧
      ∃ earlier frame later, drawnAndPainted = earlier ++ .render frame :: later ∧
        ((powerOn 500 (.constant 0) 1).run drawnAndPainted).machine.screen.Paints 1
          (((powerOn 500 (.constant 0) 1).run earlier).display.render frame).frame := by
  have one : 1 ≤ 1 := by decide
  have rendered : ∀ watched : Watched, watched.display.scale = 1 →
      (watched.act (.render (.replicate 8192 0))).display.dirty = false := by
    intro watched scale
    have complete : (watched.display.render (.replicate 8192 0)).complete = true := by
      rw [Display.render_complete, Array.size_replicate, Display.imageSize, Display.width,
        Display.height, scale]
      rfl
    show (watched.display.render _).display.dirty = false
    rw [Display.render_display, complete]
    rfl
  have pressed : ∀ watched : Watched, watched.display.dirty = false →
      (watched.act (.operate (.input ⟨1⟩))).display.dirty = false := fun watched clean =>
    Display.follow_clean_iff.mpr ⟨clean, Machine.applyKeys_quiet watched.machine ⟨1⟩⟩
  have clean : ((powerOn 500 (.constant 0) 1).run drawnAndPainted).display.dirty = false := by
    rw [drawnAndPainted, run_concat, run_concat]
    exact pressed _ (rendered _ ((powerOn_mirrors 500 (.constant 0) one).run drawn).scale)
  obtain ⟨_, _, rfl, rfl, painted, _⟩ := clean_is_painted 500 (.constant 0) one drawnAndPainted
  obtain ⟨earlier, frame, later, _, split, rfl, _, paints⟩ := painted clean
  exact ⟨one, clean, earlier, frame, later, split, paints⟩

end Watched
end Chip8
