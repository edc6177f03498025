import Chip8.Machine.Execute

/-!
# Cycles, timers and keys

A cycle reads one instruction and executes it, unless a key is awaited, and then counts towards the
next tick of the timers. A cycle that faults changes nothing and counts for nothing. Keys come from
outside; while one is awaited, the lowest key that is down ends the wait.
-/
namespace Chip8

inductive Cycle where
  /-- It executed an instruction. -/
  | executed (instruction : Instruction)
  /-- It waited for a key and read nothing. -/
  | awaitingKey
  /-- It stepped over a word that is no instruction. -/
  | decodeFault (word : UInt16)
  deriving DecidableEq, Repr

namespace Machine

/-- The screen that the display is given after an instruction that writes to it. -/
def presented (machine : Machine) (instruction : Instruction) : List Event :=
  if instruction.draws then [.screenShown machine.screen] else []

/-- Executes the instruction that was read at the program counter. -/
def perform (machine : Machine) (word : UInt16) (instruction : Instruction) :
    Outcome (Except Fault Cycle) :=
  let fetched := Event.fetched machine.counter word instruction
  match machine.execute instruction with
  | .error fault => ⟨.error fault, machine, [fetched]⟩
  | .ok effect =>
    let after := { effect.machine with counter := effect.flow.follow machine.counter }
    ⟨.ok (.executed instruction), after, fetched :: effect.events ++ after.presented instruction⟩

/-- Reads the word at the program counter and executes it; a word that is no instruction is stepped
over. -/
def runInstruction (machine : Machine) : Outcome (Except Fault Cycle) :=
  match machine.memory.readWord machine.counter.toNat with
  | .error fault => ⟨.error fault, machine, []⟩
  | .ok word =>
    match Instruction.ofWord? word with
    | some instruction => machine.perform word instruction
    | none =>
      ⟨.ok (.decodeFault word), { machine with counter := machine.counter + 2 },
        [.invalidWord word machine.counter]⟩

/-- One less, but never below zero. -/
def countDown (timer : UInt8) : UInt8 :=
  if timer = 0 then 0 else timer - 1

/-- Counts both timers down; a sound timer that runs out asks for a beep. -/
def tick (machine : Machine) : Machine × List Event :=
  ({ machine with delay := countDown machine.delay, sound := countDown machine.sound },
    if machine.sound = 1 then [.soundExpired] else [])

/-- Counts a cycle; when enough have passed the timers count and the counting starts over. -/
def countCycle (machine : Machine) : Machine × List Event :=
  if machine.divider - 1 = 0 then { machine with divider := machine.cyclesPerTick }.tick
  else ({ machine with divider := machine.divider - 1 }, [])

/-- The part of a cycle before it is counted. -/
def attempt (machine : Machine) : Outcome (Except Fault Cycle) :=
  match machine.keyWait with
  | some _ => ⟨.ok .awaitingKey, machine, []⟩
  | none => machine.runInstruction

def step (machine : Machine) : Outcome (Except Fault Cycle) :=
  let outcome := machine.attempt
  match outcome.result with
  | .error _ => outcome
  | .ok _ =>
    let (counted, ticked) := outcome.machine.countCycle
    ⟨outcome.result, counted, outcome.events ++ ticked⟩

/-- Replaces the keys; the lowest key that is down ends a wait for a key. -/
def applyKeys (machine : Machine) (keys : Keypad) : Machine × List Event :=
  let changed := if keys = machine.keys then [] else [Event.keysChanged keys]
  let pressed := { machine with keys := keys }
  match machine.keyWait, keys.lowest? with
  | some x, some key =>
    ({ pressed.setReg x key with keyWait := none }, changed ++ [.keyDelivered key x])
  | _, _ => (pressed, changed)

end Machine
end Chip8
