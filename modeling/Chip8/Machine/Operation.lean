import Chip8.Machine.Cycle

/-!
# Operations

Everything that can be done to a machine from outside, as data, and runs of operations one after
another.
-/
namespace Chip8

inductive Operation where
  | load (program : List UInt8)
  | step
  | tick
  | input (keys : Keypad)
  | reset
  deriving DecidableEq, Repr

inductive Answer where
  | done
  | cycle (cycle : Cycle)
  deriving DecidableEq, Repr

namespace Machine

def apply (machine : Machine) : Operation → Outcome (Except Fault Answer)
  | .load program =>
    let outcome := machine.load program
    ⟨outcome.result.map fun _ => .done, outcome.machine, outcome.events⟩
  | .step =>
    let outcome := machine.step
    ⟨outcome.result.map .cycle, outcome.machine, outcome.events⟩
  | .tick =>
    let (after, events) := machine.tick
    ⟨.ok .done, after, events⟩
  | .input keys =>
    let (after, events) := machine.applyKeys keys
    ⟨.ok .done, after, events⟩
  | .reset =>
    let outcome := machine.reset
    ⟨.ok .done, outcome.machine, outcome.events⟩

def run (machine : Machine) (operations : List Operation) : Machine :=
  operations.foldl (fun machine operation => (machine.apply operation).machine) machine

def outcomes (machine : Machine) : List Operation → List (Outcome (Except Fault Answer))
  | [] => []
  | operation :: rest =>
    let outcome := machine.apply operation
    outcome :: outcome.machine.outcomes rest

def history (machine : Machine) (operations : List Operation) : List Event :=
  (machine.outcomes operations).flatMap Outcome.events

/-- The machines that operations lead to from power-on. -/
inductive Reachable : Machine → Prop where
  | start (rate : UInt32) (random : RandomSource) : Reachable (powerOn rate random)
  | next {machine : Machine} (operation : Operation) :
    Reachable machine → Reachable (machine.apply operation).machine

end Machine
end Chip8
