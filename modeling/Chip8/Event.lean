import Chip8.Instruction.Assembly
import Chip8.Keypad
import Chip8.Log
import Chip8.Screen

/-!
# Events

What a machine lets its surroundings know while it works, in the order in which it happens: changes
of the screen for a display, the end of a tone for a beeper, messages for diagnostics, and lines for
the log. A machine itself depends on none of them.
-/
namespace Chip8

inductive Event where
  /-- All pixels went dark. -/
  | screenCleared
  /-- The display starts over. -/
  | displayReset
  /-- The display shows this screen from now on. -/
  | screenShown (screen : Screen)
  /-- The machine is in its power-on state. -/
  | machineReset
  /-- A program of this many bytes is in memory. -/
  | programLoaded (size : Nat)
  /-- The word at an address is no instruction. -/
  | invalidWord (word address : UInt16)
  /-- An instruction was read from an address. -/
  | fetched (address word : UInt16) (instruction : Instruction)
  /-- Execution waits for a key that goes into a register. -/
  | keyAwaited (x : UInt8)
  /-- A register was used as a digit and holds none. -/
  | glyphMissing (x value : UInt8)
  /-- The sound timer ran out. -/
  | soundExpired
  /-- Other keys are down than before. -/
  | keysChanged (keys : Keypad)
  /-- The awaited key goes into a register. -/
  | keyDelivered (key x : UInt8)
  deriving DecidableEq, Repr

namespace Event

def line? : Event → Option Log.Line
  | .screenCleared => some ⟨.trace, "Clearing framebuffer"⟩
  | .displayReset => none
  | .screenShown _ => none
  | .machineReset => some ⟨.info, "Machine reset"⟩
  | .programLoaded size =>
    some ⟨.info, "Loaded program of " ++ Numeral.decimal size ++ " bytes"⟩
  | .invalidWord word address =>
    some ⟨.warn, "Invalid opcode 0x" ++ Numeral.hex 4 word.toNat ++ " at 0x" ++
      Numeral.hex 3 address.toNat⟩
  | .fetched address word instruction =>
    some ⟨.trace, "0x" ++ Numeral.hex 3 address.toNat ++ ": " ++ Numeral.hex 4 word.toNat ++ " " ++
      instruction.mnemonic⟩
  | .keyAwaited x => some ⟨.debug, "Waiting for a key press into V" ++ Numeral.hexUpper 1 x.toNat⟩
  | .glyphMissing x value =>
    some ⟨.warn, "FX29 with V" ++ Numeral.hexUpper 1 x.toNat ++ "=0x" ++
      Numeral.hex 2 value.toNat ++ ", which has no font glyph"⟩
  | .soundExpired => some ⟨.debug, "Sound timer expired, beeping"⟩
  | .keysChanged keys => some ⟨.debug, "Keypad: " ++ Numeral.binary 16 keys.bits.toNat⟩
  | .keyDelivered key x =>
    some ⟨.debug, "Writing key " ++ Numeral.hexUpper 1 key.toNat ++ " to register V" ++
      Numeral.hexUpper 1 x.toNat⟩

def message? : Event → Option String
  | .machineReset => some "Machine reset"
  | .programLoaded size => some ("ROM loaded - " ++ Numeral.decimal size ++ " bytes")
  | .invalidWord word _ => some ("Invalid opcode = 0x" ++ Numeral.hexUpper 4 word.toNat)
  | _ => none

def shown? : Event → Option Screen
  | .screenShown screen => some screen
  | _ => none

def isDisplayReset : Event → Bool
  | .displayReset => true
  | _ => false

def isBeep : Event → Bool
  | .soundExpired => true
  | _ => false

end Event
end Chip8
