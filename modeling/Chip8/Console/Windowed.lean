import Chip8.Console.Basic

/-!
# A console in a window

How a console reacts to its window and asks the desktop for things. A reaction is the console
afterwards, the notices and calls in order, and whether the program goes on.
-/
namespace Chip8

structure Desktop where
  /-- Physical pixels along the side of a real pixel. -/
  dpi : Nat
  windowOpens : Bool
  surfaceOpens : Bool
  renderWorks : Bool
  deriving DecidableEq, Repr

inductive Call where
  | poll
  | openWindow (width height : Nat)
  | openSurface (width height : Nat)
  | openPixels (width height : Nat)
  | requestRedraw
  | render
  | leave
  deriving DecidableEq, Repr

namespace Call

def title : String := "CHIP-8"

def measures (width height : Nat) : String :=
  Numeral.decimal width ++ "x" ++ Numeral.decimal height

def text : Call → String
  | .poll => "control_flow Poll"
  | .openWindow width height =>
    "window " ++ Text.Quoted.string title ++ " " ++ measures width height
  | .openSurface width height => "surface " ++ measures width height
  | .openPixels width height => "pixels " ++ measures width height
  | .requestRedraw => "request_redraw"
  | .render => "render"
  | .leave => "exit"

end Call

inductive Output where
  | notice (notice : Notice)
  | call (call : Call)

namespace Output

def lines : Output → List Log.Line
  | .notice reported => reported.lines
  | .call _ => []

def call? : Output → Option Call
  | .notice _ => none
  | .call request => some request

end Output

inductive Verdict where
  | goOn
  /-- It leaves its event loop after this reaction. -/
  | leave
  /-- It ends at once with an exit code. -/
  | fail (code : UInt32)
  deriving DecidableEq, Repr

structure Reaction where
  console : Console
  outputs : List Output
  verdict : Verdict

inductive WindowEvent where
  | closeRequested
  | keyInput (input : Window.KeyInput)
  | redrawRequested
  | ignored
  deriving DecidableEq, Repr

namespace Console

/-- A reaction after which the program goes on. -/
def react (console : Console) (notices : List Notice) : Reaction :=
  ⟨console, notices.map .notice, .goOn⟩

def ignore (console : Console) : Reaction := console.react []

/-- Sizes of windows are numbers of 32 bits. -/
def windowSize (length : Nat) : Nat := length % UInt32.size

/-- A length in physical pixels. One that 32 bits do not hold is cut to the largest they do. -/
def physicalSize (desktop : Desktop) (length : Nat) : Nat :=
  min (length * desktop.dpi) (UInt32.size - 1)

/-- Opens the window and its surface, which starts out as zeros, and starts the clock. -/
def resumed (console : Console) (desktop : Desktop) (now : Nat) : Reaction :=
  let width := windowSize console.display.width
  let height := windowSize console.display.height
  let physicalWidth := physicalSize desktop width
  let physicalHeight := physicalSize desktop height
  let opening :=
    [.notice (.windowOpening width height), .call (.openWindow physicalWidth physicalHeight)]
  if !desktop.windowOpens then
    ⟨console, opening ++ [.notice .windowRefused], .fail 1⟩
  else
    let opened := opening ++
      [.call (.openSurface physicalWidth physicalHeight), .call (.openPixels width height)]
    if !desktop.surfaceOpens then
      ⟨console, opened ++ [.notice .surfaceRefused], .fail 1⟩
    else
      let frame := Array.replicate (width * height * 4) 0
      ⟨{ console with surface := some frame, lastCycle := now }, opened, .goOn⟩

def brokenOff : UInt32 := 101

/-- Renders the display to the surface, if there is one. -/
def redraw (console : Console) (desktop : Desktop) : Reaction :=
  match console.surface with
  | none => console.ignore
  | some frame =>
    let rendering := console.display.render frame
    let after := { console with display := rendering.display, surface := some rendering.frame }
    if rendering.complete then
      ⟨after, .call .render :: (if desktop.renderWorks then [] else [.notice .renderFailed]), .goOn⟩
    else ⟨after, [], .fail brokenOff⟩

/-- Presses or releases the keypad key that typed text stands for. -/
def typed (console : Console) (text : String) (pressed : Bool) : Console × List Notice :=
  match Keyboard.keyOf? text with
  | none => (console, [])
  | some key =>
    let (keyboard, report) :=
      if pressed then console.keyboard.press key else console.keyboard.release key
    ({ console with keyboard := keyboard }, [.keyboard report])

/-- One cycle by hand: the keyboard is applied and then a cycle runs. -/
def stepByHand (console : Console) : Console × List Notice :=
  let (polled, asked) := console.poll
  let (after, reported) := polled.runCycle
  (after, asked ++ reported)

def keyAction (console : Console) (now : Nat) (key : Window.Key) (pressed : Bool) :
    Console × List Notice :=
  match key with
  | .named .backspace => if pressed then console.restart now else (console, [])
  | .named .f1 => if pressed then (console, [.dumped console.machine]) else (console, [])
  | .named .space =>
    if pressed && console.stepThrough && !console.halted then console.stepByHand else (console, [])
  | .character text => console.typed text pressed
  | _ => (console, [])

/-- The reaction to a key. A key that repeats is ignored, and the escape key ends the program. -/
def keyInput (console : Console) (now : Nat) (input : Window.KeyInput) : Reaction :=
  if input.repeated then console.ignore
  else
    let seen := Output.notice (.keyInput input.key input.pressed)
    if input.key = .named .escape then ⟨console, [seen, .call .leave], .leave⟩
    else
      let (after, reported) := console.keyAction now input.key input.pressed
      ⟨after, seen :: reported.map .notice, .goOn⟩

def windowEvent (console : Console) (desktop : Desktop) (now : Nat) : WindowEvent → Reaction
  | .closeRequested => ⟨console, [.notice .closing, .call .leave], .leave⟩
  | .keyInput input => console.keyInput now input
  | .redrawRequested => console.redraw desktop
  | .ignored => console.ignore

/-- Catches up with the clock, and asks for a redraw of the window when the display is dirty. -/
def aboutToWait (console : Console) (patience now : Nat) : Option Reaction :=
  (console.catchUpNow patience now).map fun caught =>
    let redraw := caught.console.surface.isSome && caught.console.display.dirty
    ⟨caught.console,
      caught.notices.reverse.map .notice ++ (if redraw then [.call .requestRedraw] else []), .goOn⟩

end Console
end Chip8
