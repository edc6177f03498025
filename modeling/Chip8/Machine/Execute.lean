import Chip8.Machine.Basic

/-!
# Execution of an instruction

What each instruction does to a machine and where it sends the program counter. An instruction that
faults has no effect at all. Where an instruction gives a register and the flag a value, the flag is
written last.
-/
namespace Chip8

/-- Where the program counter goes. -/
inductive Flow where
  | next
  | skip
  | jump (target : UInt16)
  deriving DecidableEq, Repr

def Flow.skipIf (condition : Bool) : Flow :=
  if condition then .skip else .next

def Flow.follow (flow : Flow) (address : UInt16) : UInt16 :=
  match flow with
  | .next => address + 2
  | .skip => address + 4
  | .jump target => target

namespace Machine

/-- What an instruction did: the machine with its program counter still in place, where the counter
goes, and the events on the way. -/
structure Effect where
  machine : Machine
  flow : Flow
  events : List Event

def proceed (machine : Machine) : Effect := ⟨machine, .next, []⟩

def go (machine : Machine) (flow : Flow) : Effect := ⟨machine, flow, []⟩

def decimalDigits (value : UInt8) : List UInt8 :=
  [value / 100, value / 10 % 10, value % 10]

def glyphAddress (digit : UInt8) : UInt16 :=
  digit.toUInt16 * Memory.glyphSize.toUInt16

/-- The rows of the sprite that the index register points at; no rows are read from anywhere. -/
def sprite (machine : Machine) (rows : UInt8) : Except Fault (List UInt8) :=
  if rows = 0 then .ok [] else machine.memory.readRange machine.index.toNat rows.toNat

def execute (machine : Machine) : Instruction → Except Fault Effect
  | .clearScreen => .ok ⟨{ machine with screen := .blank }, .next, [.screenCleared]⟩
  | .subReturn => do
    let (caller, stack) ← machine.stack.pop machine.counter
    return go { machine with stack := stack } (.jump (caller + 2))
  | .jump target => .ok (go machine (.jump target))
  | .call target => do
    let stack ← machine.stack.push machine.counter machine.counter
    return go { machine with stack := stack } (.jump target)
  | .skipIfEqualByte x byte => .ok (go machine (.skipIf (machine.reg x == byte)))
  | .skipIfNotEqualByte x byte => .ok (go machine (.skipIf (machine.reg x != byte)))
  | .skipIfEqual x y => .ok (go machine (.skipIf (machine.reg x == machine.reg y)))
  | .loadByte x byte => .ok (proceed (machine.setReg x byte))
  | .addByte x byte => .ok (proceed (machine.setReg x (machine.reg x + byte)))
  | .copy x y => .ok (proceed (machine.setReg x (machine.reg y)))
  | .or x y => .ok (proceed (machine.setReg x (machine.reg x ||| machine.reg y)))
  | .and x y => .ok (proceed (machine.setReg x (machine.reg x &&& machine.reg y)))
  | .xor x y => .ok (proceed (machine.setReg x (machine.reg x ^^^ machine.reg y)))
  | .add x y =>
    let a := machine.reg x
    let b := machine.reg y
    .ok (proceed (machine.setRegFlag x (a + b) (256 ≤ a.toNat + b.toNat)))
  | .sub x y =>
    let a := machine.reg x
    let b := machine.reg y
    .ok (proceed (machine.setRegFlag x (a - b) (b ≤ a)))
  | .shiftRight x =>
    let a := machine.reg x
    .ok (proceed (machine.setRegFlag x (a >>> 1) (a.toNat % 2 == 1)))
  | .subReverse x y =>
    let a := machine.reg x
    let b := machine.reg y
    .ok (proceed (machine.setRegFlag x (b - a) (a ≤ b)))
  | .shiftLeft x =>
    let a := machine.reg x
    .ok (proceed (machine.setRegFlag x (a <<< 1) (128 ≤ a.toNat)))
  | .skipIfNotEqual x y => .ok (go machine (.skipIf (machine.reg x != machine.reg y)))
  | .loadIndex address => .ok (proceed { machine with index := address })
  | .jumpOffset base => .ok (go machine (.jump ((machine.reg 0).toUInt16 + base)))
  | .random x mask =>
    let (byte, source) := machine.random.draw
    .ok (proceed ({ machine with random := source }.setReg x (byte &&& mask)))
  | .draw x y rows => do
    let sprite ← machine.sprite rows
    let (screen, collided) :=
      machine.screen.drawSprite (machine.reg x).toNat (machine.reg y).toNat sprite
    return proceed { machine with
      screen := screen
      registers := machine.registers.setFlag collided }
  | .skipIfKeyPressed x => .ok (go machine (.skipIf (machine.keys.isDown (machine.reg x))))
  | .skipIfKeyNotPressed x => .ok (go machine (.skipIf (!machine.keys.isDown (machine.reg x))))
  | .loadDelay x => .ok (proceed (machine.setReg x machine.delay))
  | .waitForKey x => .ok ⟨{ machine with keyWait := some x }, .next, [.keyAwaited x]⟩
  | .setDelay x => .ok (proceed { machine with delay := machine.reg x })
  | .setSound x => .ok (proceed { machine with sound := machine.reg x })
  | .addIndex x => .ok (proceed { machine with index := machine.index + (machine.reg x).toUInt16 })
  | .loadGlyph x =>
    let digit := machine.reg x
    .ok ⟨{ machine with index := glyphAddress digit }, .next,
      if 0xF < digit then [.glyphMissing x digit] else []⟩
  | .storeDigits x => do
    let memory ← machine.memory.writeRange machine.index.toNat (decimalDigits (machine.reg x))
    return proceed { machine with memory := memory }
  | .storeRegisters x => do
    let memory ← machine.memory.writeRange machine.index.toNat (machine.registers.upTo x)
    return proceed { machine with memory := memory }
  | .loadRegisters x => do
    let values ← machine.memory.readRange machine.index.toNat (Registers.place x + 1)
    return proceed { machine with registers := machine.registers.fill values }

end Machine
end Chip8
