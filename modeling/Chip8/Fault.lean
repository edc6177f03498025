import Chip8.Numeral

/-!
# Faults

The conditions that stop a program, and the sentence that reports each of them.
-/
namespace Chip8

inductive Fault where
  /-- A call was made while all sixteen levels were in use. -/
  | stackOverflow (address : UInt16)
  /-- A return was made with nothing on the stack. -/
  | stackUnderflow (address : UInt16)
  /-- An address fell outside of memory. -/
  | addressOutOfBounds (address : Nat)
  /-- A program and the marker behind it do not fit into memory. -/
  | programTooLarge (size max : Nat)
  deriving DecidableEq, Repr

def Fault.message : Fault → String
  | .stackOverflow address =>
    "stack overflow: call at 0x" ++ Numeral.hex 3 address.toNat ++ " with all 16 levels in use"
  | .stackUnderflow address =>
    "stack underflow: return at 0x" ++ Numeral.hex 3 address.toNat ++ " with an empty stack"
  | .addressOutOfBounds address =>
    "memory access out of bounds at 0x" ++ Numeral.hex 4 address
  | .programTooLarge size max =>
    "program of " ++ Numeral.decimal size ++ " bytes does not fit, at most " ++
      Numeral.decimal max ++ " bytes can be loaded"

end Chip8
