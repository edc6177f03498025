import Chip8.Fault
import Chip8.Text.Structural

/-!
# Call stack

Sixteen slots for the addresses of pending calls. A slot keeps its value after it was popped, which
only the structural text shows.
-/
namespace Chip8

structure CallStack where
  slots : Vector UInt16 16
  depth : Nat
  depth_le : depth ≤ 16 := by omega
  deriving DecidableEq, Repr

namespace CallStack

def empty : CallStack where
  slots := Vector.replicate 16 0
  depth := 0

/-- The pending values, oldest first. -/
def entries (stack : CallStack) : List UInt16 :=
  stack.slots.toList.take stack.depth

/-- Adds a value; a full stack is a fault at the caller's address. -/
def push (stack : CallStack) (value caller : UInt16) : Except Fault CallStack :=
  if h : stack.depth < 16 then
    .ok { slots := stack.slots.set stack.depth value, depth := stack.depth + 1 }
  else .error (.stackOverflow caller)

/-- Takes the latest value; an empty stack is a fault at the caller's address. -/
def pop (stack : CallStack) (caller : UInt16) : Except Fault (UInt16 × CallStack) :=
  if h : 0 < stack.depth then
    have bound := stack.depth_le
    .ok (stack.slots.get ⟨stack.depth - 1, by omega⟩,
      { slots := stack.slots, depth := stack.depth - 1 })
  else .error (.stackUnderflow caller)

/-- All slots, popped ones included, and the number of pending values. -/
def outline (stack : CallStack) : String :=
  Text.Structural.record "Stack" [
    ("memory", Text.Structural.list
      (stack.slots.toList.map fun slot => Numeral.decimal slot.toNat)),
    ("stack_pointer", Numeral.decimal stack.depth)]

end CallStack
end Chip8
