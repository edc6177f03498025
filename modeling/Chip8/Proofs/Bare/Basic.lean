import Chip8.Machine.Operation

/-!
# The bare machine

A machine as numbers of fixed width and flat arrays, and computations that change it in place. A
computation goes on from whatever was changed before it, also after a fault; and it has no answer at
all where a number leaves its width, where a place lies outside its array, or where bytes are copied
between ranges of different length. So an answer is more than the absence of a fault, and what a
fault leaves behind is a fact about the order of the changes.
-/
namespace Chip8

/-- The pixels of a screen row by row, one for a lit pixel. -/
abbrev Bare.Cells := Vector UInt8 (Screen.height * Screen.width)

structure Bare where
  rate : UInt32
  memory : Vector UInt8 Memory.size
  registers : Vector UInt8 16
  index : UInt16
  counter : UInt16
  /-- The slots of the call stack, pending or not. -/
  slots : Vector UInt16 16
  /-- The number of pending calls. -/
  pointer : UInt8
  delay : UInt8
  sound : UInt8
  divider : UInt32
  cells : Bare.Cells
  keys : UInt16
  keyWait : Option UInt8
  random : RandomSource

/-- A computation on a bare machine and the events so far. -/
abbrev Work (α : Type) := ExceptT Fault (StateT (Bare × List Event) Option) α

namespace Bare

def cellByte (lit : Bool) : UInt8 := if lit then 1 else 0

def ofMachine (machine : Machine) : Bare where
  rate := machine.rate
  memory := machine.memory.bytes
  registers := machine.registers.cells
  index := machine.index
  counter := machine.counter
  slots := machine.stack.slots
  pointer := machine.stack.depth.toUInt8
  delay := machine.delay
  sound := machine.sound
  divider := machine.divider.toUInt32
  cells := machine.screen.cells.map cellByte
  keys := machine.keys.bits
  keyWait := machine.keyWait
  random := machine.random

/-! ## Numbers and places that may fail -/

/-- A number as a byte, if it is one. -/
def byte? (n : Nat) : Option UInt8 :=
  if n < UInt8.size then some n.toUInt8 else none

def word? (n : Nat) : Option UInt16 :=
  if n < UInt16.size then some n.toUInt16 else none

/-- A number as a size of 64 bits, if it is one. -/
def size? (n : Nat) : Option Nat :=
  if n < UInt64.size then some n else none

/-- A difference, if it is not below zero. -/
def difference? (a b : Nat) : Option Nat :=
  if b ≤ a then some (a - b) else none

def mask? (bit : Nat) : Option UInt16 :=
  if bit < 16 then some (1 <<< bit.toUInt16) else none

/-- An array with another value at a place, if it has that place. -/
def replace? {α : Type} {n : Nat} (values : Vector α n) (place : Nat) (value : α) :
    Option (Vector α n) :=
  if h : place < n then some (values.set place value) else none

/-- An array with the values from `start` up to `stop` replaced, if it has these places and as many
values are given. -/
def copy? {α : Type} {n : Nat} (array : Vector α n) (start stop : Nat) (values : List α) :
    Option (Vector α n) :=
  if start ≤ stop ∧ stop ≤ n ∧ values.length = stop - start then
    some (Vector.ofFn fun i =>
      if start ≤ i.val then values.getD (i - start) (array.get i) else array.get i)
  else none

/-! ## Computations -/

/-- Runs a computation: no answer, or the result, what the machine became, and all events. -/
def answer {α : Type} (work : Work α) (bare : Bare) (events : List Event) :
    Option (Except Fault α × Bare × List Event) :=
  StateT.run (ExceptT.run work) (bare, events)

/-- The results of computations one after another, each with the machine that it leaves behind. A
computation without an answer is the end of everything: then there are no results at all. -/
def answers {ρ α : Type} (work : ρ → Work α) (bare : Bare) (events : List Event) :
    List ρ → Option (List (Except Fault α × Bare))
  | [] => some []
  | request :: rest => do
    let (result, after, told) ← answer (work request) bare events
    let later ← answers work after told rest
    return (result, after) :: later

def inspect {α : Type} (view : Bare → α) : Work α := do
  return view (← get).1

def change (update : Bare → Bare) : Work Unit :=
  modify fun (bare, events) => (update bare, events)

def tell (event : Event) : Work Unit :=
  modify fun (bare, events) => (bare, events ++ [event])

end Bare
end Chip8
