import Chip8.CallStack
import Chip8.Event
import Chip8.Memory
import Chip8.Random.Source
import Chip8.Registers
import Chip8.Timing

/-!
# Machines

The state of a machine, its power-on state, and what an operation on it answers: a result, the
machine afterwards and the events on the way.
-/
namespace Chip8

structure Machine where
  /-- Cycles per second. -/
  rate : UInt32
  memory : Memory
  registers : Registers
  index : UInt16
  counter : UInt16
  stack : CallStack
  delay : UInt8
  sound : UInt8
  /-- Cycles left until the timers count. -/
  divider : Nat
  screen : Screen
  keys : Keypad
  /-- The register that a pending wait for a key writes to. -/
  keyWait : Option UInt8
  random : RandomSource

structure Outcome (α : Type) where
  result : α
  machine : Machine
  events : List Event

namespace Machine

def startCounter : UInt16 := Memory.programStart.toUInt16

def cyclesPerTick (machine : Machine) : Nat :=
  Timing.cyclesPerTick machine.rate

def powerOn (rate : UInt32) (random : RandomSource) : Machine where
  rate := rate
  memory := .initial
  registers := .zero
  index := 0
  counter := startCounter
  stack := .empty
  delay := 0
  sound := 0
  divider := Timing.cyclesPerTick rate
  screen := .blank
  keys := .empty
  keyWait := none
  random := random

def resetEvents : List Event :=
  [.screenCleared, .displayReset, .machineReset]

/-- Returns everything to its power-on state; the rate stays, and the random source is not wound
back. -/
def reset (machine : Machine) : Outcome Unit where
  result := ()
  machine := { machine with
    memory := .initial
    registers := .zero
    index := 0
    counter := startCounter
    stack := .empty
    delay := 0
    sound := 0
    divider := machine.cyclesPerTick
    screen := .blank
    keys := .empty
    keyWait := none }
  events := resetEvents

def load (machine : Machine) (program : List UInt8) : Outcome (Except Fault Unit) :=
  match machine.memory.load program with
  | .ok memory => ⟨.ok (), { machine with memory := memory }, [.programLoaded program.length]⟩
  | .error fault => ⟨.error fault, machine, []⟩

def reg (machine : Machine) (x : UInt8) : UInt8 :=
  machine.registers.get x

def setReg (machine : Machine) (x value : UInt8) : Machine :=
  { machine with registers := machine.registers.set x value }

/-- Gives a register a value, and then the flag. -/
def setRegFlag (machine : Machine) (x value : UInt8) (flag : Bool) : Machine :=
  { machine with registers := (machine.registers.set x value).setFlag flag }

def settingsOutline (rate : UInt32) : String :=
  Text.Structural.record "MachineConfig" [("instruction_rate", Numeral.decimal rate.toNat)]

/-- The state of a machine as structural text, without memory, screen and devices. -/
def outline (machine : Machine) : String :=
  let address (word : UInt16) := "0x" ++ Numeral.hex 3 word.toNat
  Text.Structural.openRecord "Machine" [
    ("program_counter", address machine.counter),
    ("index_register", address machine.index),
    ("v_registers", Text.Structural.list
      (machine.registers.toList.map fun value => Numeral.decimal value.toNat)),
    ("stack", Text.Structural.list
      (machine.stack.entries.map fun entry => Numeral.decimal entry.toNat)),
    ("delay_timer", Numeral.decimal machine.delay.toNat),
    ("sound_timer", Numeral.decimal machine.sound.toNat),
    ("keys", machine.keys.outline),
    ("key_wait_register", Text.Structural.option
      (machine.keyWait.map fun x => Numeral.decimal x.toNat))]

end Machine
end Chip8
