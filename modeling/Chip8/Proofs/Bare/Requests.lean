import Chip8.Proofs.Bare.Agreement

/-!
# Requests to the bare machine

A bare machine from its construction on, under any requests one after another. It never comes to a
request that it has no answer to, so no number ever leaves its width and no place its array; and its
numbers keep within bounds that are much tighter than their widths.
-/
namespace Chip8

inductive Request where
  | load (program : List UInt8)
  | step
  | tick
  | input (mask : UInt16)
  | poll (states : Vector Bool 16)
  | reset
  deriving DecidableEq

/-- The operation that a request is for; keys that are asked for are put in. -/
def Request.operation : Request → Operation
  | .load program => .load program
  | .step => .step
  | .tick => .tick
  | .input mask => .input ⟨mask⟩
  | .poll states => .input (Keypad.ofStates states)
  | .reset => .reset

namespace Bare

/-! ## Serving requests -/

def serve : Request → Work Answer
  | .load program => do
    load program
    return .done
  | .step => return .cycle (← step)
  | .tick => do
    tick
    return .done
  | .input mask => do
    applyKeys ⟨mask⟩
    return .done
  | .poll states => do
    poll states
    return .done
  | .reset => do
    reset
    return .done

/-- The state after requests one after another, whatever the answers are. -/
def serveAll (state : Bare × List Event) (requests : List Request) :
    Option (Bare × List Event) :=
  requests.foldlM (fun (bare, events) request => (answer (serve request) bare events).map (·.2))
    state

/-- The fields that a machine is made of before it starts over for the first time. -/
def blank (rate : UInt32) (random : RandomSource) : Bare where
  rate := rate
  memory := Memory.initial.bytes
  registers := Registers.zero.cells
  index := 0
  counter := 0x200
  slots := Vector.replicate 16 0
  pointer := 0
  delay := 0
  sound := 0
  divider := cyclesPerTick rate
  cells := Vector.replicate (Screen.height * Screen.width) 0
  keys := 0
  keyWait := none
  random := random

/-- The state that requests lead to from the construction of a machine. -/
def reached (rate : UInt32) (random : RandomSource) (requests : List Request) :
    Option (Bare × List Event) := do
  let (_, made) ← answer reset (blank rate random) []
  serveAll made requests

/-- The bounds that every request keeps. -/
structure Bounded (bare : Bare) : Prop where
  counter_le : bare.counter.toNat ≤ 0x10FE
  pointer_le : bare.pointer.toNat ≤ 16
  slots_le : ∀ (i : Nat) (_ : i < 16), bare.slots[i].toNat ≤ 0xFFE
  divider_pos : 1 ≤ bare.divider.toNat
  divider_le : bare.divider.toNat ≤ (cyclesPerTick bare.rate).toNat
  keyWait_lt : ∀ x, bare.keyWait = some x → x.toNat < 16
  cells_bit : ∀ (i : Nat) (_ : i < Screen.height * Screen.width),
    bare.cells[i] = 0 ∨ bare.cells[i] = 1

theorem blank_eq (rate : UInt32) (random : RandomSource) :
    blank rate random = ofMachine (Machine.powerOn rate random) := by
  have dark : (Vector.replicate (Screen.height * Screen.width) false).map cellByte =
      Vector.replicate (Screen.height * Screen.width) 0 := Vector.map_replicate
  simp only [blank, ofMachine, Machine.powerOn, Screen.blank, dark, cyclesPerTick_eq]
  rfl

theorem ofMachine_bounded {machine : Machine} (bounded : machine.Bounded) :
    (ofMachine machine).Bounded := by
  have divider := toNat_divider bounded.divider_le
  have seed := toNat_divider (Nat.le_refl { machine with divider := machine.cyclesPerTick }.divider)
  constructor
  · exact bounded.counter_le
  · rw [toNat_pointer]
    exact machine.stack.depth_le
  · exact bounded.slots_le
  · exact divider.symm ▸ bounded.divider_pos
  · rw [ofMachine_divider, divider, ofMachine_rate, cyclesPerTick_eq]
    exact seed.symm ▸ bounded.divider_le
  · exact bounded.keyWait_lt
  · intro i inside
    rw [ofMachine_cells, Vector.getElem_map]
    cases machine.screen.cells[i] with
    | false => exact .inl rfl
    | true => exact .inr rfl

theorem answer_poll {machine : Machine} (events : List Event) (bounded : machine.Bounded)
    (states : Vector Bool 16) :
    answer (poll states) (ofMachine machine) events =
      some (.ok (), ofMachine (machine.applyKeys (Keypad.ofStates states)).1,
        events ++ (machine.applyKeys (Keypad.ofStates states)).2) := by
  rw [poll, pressed?_eq, answer_bind, answer_liftM_some]
  exact answer_applyKeys events bounded _

/-- Every request to a machine within its bounds is answered as the operation is. -/
theorem answer_serve {machine : Machine} (events : List Event) (bounded : machine.Bounded)
    (request : Request) :
    answer (serve request) (ofMachine machine) events =
      reported events (machine.apply request.operation) := by
  cases request with
  | load program =>
    cases done : (machine.load program).result with
    | error _ | ok _ =>
      simp [serve, answer_load, reported, done, Request.operation, Machine.apply, Except.map]
  | step =>
    cases done : machine.step.result with
    | error _ | ok _ =>
      simp [serve, answer_step _ bounded, reported, done, Request.operation, Machine.apply,
        Except.map]
  | tick => simp [serve, answer_tick, reported, Request.operation, Machine.apply]
  | input mask =>
    simp [serve, answer_applyKeys _ bounded, reported, Request.operation, Machine.apply]
  | poll states => simp [serve, answer_poll _ bounded, reported, Request.operation, Machine.apply]
  | reset => simp [serve, answer_reset, reported, Request.operation, Machine.apply, Machine.reset]

theorem serveAll_ofMachine {machine : Machine} (events : List Event) (bounded : machine.Bounded)
    (requests : List Request) :
    serveAll (ofMachine machine, events) requests =
      some (ofMachine (machine.run (requests.map Request.operation)),
        events ++ machine.history (requests.map Request.operation)) := by
  induction requests generalizing machine events with
  | nil => simp [serveAll, Machine.run, Machine.history, Machine.outcomes]
  | cons request rest ih =>
    have served := answer_serve events bounded request
    have next := ih (events ++ (machine.apply request.operation).events)
      (Machine.apply_bounded bounded request.operation)
    rw [List.append_assoc] at next
    simp only [serveAll, List.foldlM_cons, served, reported, Option.map_some, Option.bind_eq_bind,
      Option.bind_some]
    exact next

/-- A machine is made in the state that starting over leads to. -/
theorem reached_eq (rate : UInt32) (random : RandomSource) (requests : List Request) :
    reached rate random requests =
      some (ofMachine ((Machine.powerOn rate random).run (requests.map Request.operation)),
        Machine.resetEvents ++
          (Machine.powerOn rate random).history (requests.map Request.operation)) := by
  have bounded := Machine.powerOn_bounded rate random
  have same : (Machine.powerOn rate random).reset.machine = Machine.powerOn rate random := rfl
  rw [reached, blank_eq, answer_reset, same]
  exact serveAll_ofMachine Machine.resetEvents bounded requests

/-- However a machine was configured, whatever its random source holds and whatever was asked of it,
it is within its bounds and has an answer to every further request, the one of the machine. -/
theorem reached_total (rate : UInt32) (random : RandomSource) (requests : List Request) :
    ∃ machine bare events,
      machine = (Machine.powerOn rate random).run (requests.map Request.operation) ∧
      reached rate random requests = some (bare, events) ∧ bare = ofMachine machine ∧
      bare.Bounded ∧
      ∀ request, ∃ result after told,
        answer (serve request) bare events = some (result, after, told) ∧
        result = (machine.apply request.operation).result ∧
        after = ofMachine (machine.apply request.operation).machine := by
  have bounded := Machine.run_bounded (Machine.powerOn_bounded rate random)
    (requests.map Request.operation)
  refine ⟨_, _, _, rfl, reached_eq rate random requests, rfl, ofMachine_bounded bounded, ?_⟩
  intro request
  exact ⟨_, _, _, answer_serve _ bounded request, rfl, rfl⟩

end Bare
end Chip8
