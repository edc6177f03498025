import Chip8.Console.Notice
import Chip8.Display
import Chip8.Machine.Operation

/-!
# Consoles

A machine at work for a person: with a display, a keyboard, the program it runs, and a clock in
whole nanoseconds. A console halts when its program runs into the halt marker or a fault, or when a
restart cannot reload the program, and then executes nothing until it is restarted.
-/
namespace Chip8

structure Console where
  machine : Machine
  display : Display
  /-- The program, kept for a restart. -/
  rom : List UInt8
  keyboard : Keyboard
  /-- Cycles run by hand, one at a time. -/
  stepThrough : Bool
  halted : Bool
  /-- The time up to which cycles have been run. -/
  lastCycle : Nat
  /-- The bytes of the open window's surface. -/
  surface : Option (Array UInt8)

namespace Console

/-- How the machine of a console is attached: its display takes events, nothing beeps, and the log
takes diagnostics. -/
def attachment : Attachment := ⟨true, false, .log⟩

/-- The same before diagnostics are attached. -/
def bareAttachment : Attachment := { attachment with sink := .absent }

def absorb (console : Console) (machine : Machine) (events : List Event) : Console :=
  { console with machine := machine, display := console.display.follow events }

def notices (events : List Event) : List Notice :=
  events.map (.machine attachment)

def poll (console : Console) : Console × List Notice :=
  let (machine, events) := console.machine.applyKeys console.keyboard.keypad
  (console.absorb machine events, notices events)

def runCycle (console : Console) : Console × List Notice :=
  let address := console.machine.counter
  let outcome := console.machine.step
  let after := console.absorb outcome.machine outcome.events
  let reported := notices outcome.events
  match outcome.result with
  | .ok (.decodeFault word) =>
    if word = Memory.haltWord then
      ({ after with halted := true }, reported ++ [.programEnded address])
    else (after, reported)
  | .ok (.executed instruction) =>
    (after, reported ++ if console.stepThrough then [.stepped address instruction] else [])
  | .ok .awaitingKey =>
    (after, reported ++ if console.stepThrough then [.waiting] else [])
  | .error fault =>
    ({ after with halted := true }, reported ++ [.stopped fault after.machine])

/-- Puts the machine into its power-on state, releases all keys and loads the program again. -/
def restart (console : Console) (now : Nat) : Console × List Notice :=
  let reset := console.machine.reset
  let cleared := { console.absorb reset.machine reset.events with keyboard := .empty }
  let loaded := cleared.machine.load console.rom
  let after := cleared.absorb loaded.machine loaded.events
  let reported := .restarting :: notices (reset.events ++ loaded.events)
  match loaded.result with
  | .ok _ => ({ after with halted := false, lastCycle := now }, reported)
  | .error fault => ({ after with halted := true }, reported ++ [.reloadFailed fault])

/-- A console around a machine at power-on, with what its construction reports. -/
def build (rate : UInt32) (scale : Nat) (random : RandomSource) (rom : List UInt8)
    (stepThrough : Bool) : Console × List Notice :=
  ({ machine := .powerOn rate random
     display := (Display.ofScale scale).follow Machine.resetEvents
     rom := rom
     keyboard := .empty
     stepThrough := stepThrough
     halted := false
     lastCycle := 0
     surface := none },
    Machine.resetEvents.map (.machine bareAttachment))

def loadRom (console : Console) : Console × Except Fault Unit × List Notice :=
  let outcome := console.machine.load console.rom
  (console.absorb outcome.machine outcome.events, outcome.result, notices outcome.events)

/-! ## Pace -/

/-- What catching up with the clock leaves: the console, how many cycles it took, and the notices,
the latest first. -/
structure CatchUp where
  console : Console
  cycles : Nat
  notices : List Notice

def isDue (console : Console) (period now : Nat) : Bool :=
  !console.halted && period ≤ now - console.lastCycle

/-- One cycle, which takes up its period. -/
def CatchUp.advance (state : CatchUp) (period : Nat) : CatchUp :=
  let (after, reported) := state.console.runCycle
  { console := { after with lastCycle := after.lastCycle + period }
    cycles := state.cycles + 1
    notices := reported.reverse ++ state.notices }

/-- Runs the cycles that are due. When more are due than `patience` allows there is no answer. -/
def catchUp (period now : Nat) : Nat → CatchUp → Option CatchUp
  | 0, state => if state.console.isDue period now then none else some state
  | patience + 1, state =>
    if state.console.isDue period now then catchUp period now patience (state.advance period)
    else some state

def period (console : Console) : Nat :=
  Timing.cycleTime console.machine.rate

/-- Applies the keyboard and runs the cycles that are due; by hand or when halted, nothing. -/
def catchUpNow (console : Console) (patience now : Nat) : Option CatchUp :=
  if console.stepThrough || console.halted then some ⟨console, 0, []⟩
  else
    let (polled, reported) := console.poll
    catchUp console.period now patience ⟨polled, 0, reported.reverse⟩

end Console
end Chip8
