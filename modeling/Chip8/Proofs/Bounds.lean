import Chip8.Proofs.CallStack
import Chip8.Proofs.Cycle
import Chip8.Proofs.Execution

/-!
# Bounds

What holds of every machine that operations lead to from power-on. The program counter stays within
a few bytes of memory because an instruction moves it only after its own word was read there; return
addresses are bounded because they are such program counters; and the divider stays between one and
the number of cycles of a tick because counting and starting over agree on that number.
-/
namespace Chip8

/-- The bounds that every operation keeps. -/
structure Machine.Bounded (machine : Machine) : Prop where
  counter_le : machine.counter.toNat ≤ 0x10FE
  slots_le : ∀ (i : Nat) (_ : i < 16), machine.stack.slots[i].toNat ≤ 0xFFE
  divider_pos : 1 ≤ machine.divider
  divider_le : machine.divider ≤ machine.cyclesPerTick
  keyWait_lt : ∀ x, machine.keyWait = some x → x.toNat < 16

namespace Machine

variable {machine : Machine}

theorem cyclesPerTick_pos (machine : Machine) : 1 ≤ machine.cyclesPerTick :=
  Nat.le_max_left _ _

/-! ## Instructions -/

/-- The slots of the stack hold no more after an instruction at a readable address. -/
theorem execute_slots_le {instruction : Instruction} {effect : Effect} (bounded : machine.Bounded)
    (readable : machine.counter.toNat ≤ 0xFFE) (done : machine.execute instruction = .ok effect)
    (i : Nat) (inside : i < 16) : effect.machine.stack.slots[i].toNat ≤ 0xFFE := by
  by_cases other : instruction.part? = some .stack
  · cases instruction with
    | subReturn =>
      obtain ⟨⟨caller, stack⟩, popped, done⟩ := bind_ok done
      cases done
      obtain ⟨_, slots, _, _⟩ := CallStack.pop_slots popped
      simpa [go, slots] using bounded.slots_le i inside
    | call target =>
      obtain ⟨stack, pushed, done⟩ := bind_ok done
      cases done
      obtain ⟨room, slots, _⟩ := CallStack.push_slots pushed
      simp only [go, slots, Vector.getElem_set]
      split
      · exact readable
      · exact bounded.slots_le i inside
    | _ => cases other
  · have same : effect.machine.stack = machine.stack := execute_same done .stack other
    simpa [same] using bounded.slots_le i inside

/-- Only a wait for a key names a register to wait for, and names one that exists. -/
theorem execute_keyWait_lt {word : UInt16} {instruction : Instruction} {effect : Effect}
    (bounded : machine.Bounded) (decoded : Instruction.ofWord? word = some instruction)
    (done : machine.execute instruction = .ok effect) {x : UInt8}
    (wait : effect.machine.keyWait = some x) : x.toNat < 16 := by
  by_cases other : instruction.part? = some .keyWait
  · cases instruction with
    | waitForKey y =>
      cases done
      cases wait
      exact Instruction.ofWord?_encodable decoded
    | _ => cases other
  · have same : effect.machine.keyWait = machine.keyWait := execute_same done .keyWait other
    exact bounded.keyWait_lt x (same ▸ wait)

/-- Behind a readable address no number wraps around. -/
theorem toNat_follow {address : UInt16} (readable : address.toNat ≤ 0xFFE) :
    (Flow.next.follow address).toNat = address.toNat + 2 ∧
      (Flow.skip.follow address).toNat = address.toNat + 4 := by
  simp only [Flow.follow, UInt16.toNat_add, UInt16.reduceToNat]
  omega

/-- Where the program counter goes from a readable address, if it jumps not too far. -/
theorem toNat_follow_le {address : UInt16} {flow : Flow} (readable : address.toNat ≤ 0xFFE)
    (jump : ∀ target, flow = .jump target → target.toNat ≤ 0x10FE) :
    (flow.follow address).toNat ≤ 0x10FE := by
  obtain ⟨next, skip⟩ := toNat_follow readable
  cases flow with
  | next | skip => omega
  | jump target => exact jump target rfl

/-- The latest return address and the one behind its call. -/
theorem toNat_popped (bounded : machine.Bounded) {caller : UInt16} {stack : CallStack}
    (popped : machine.stack.pop machine.counter = .ok (caller, stack)) :
    caller.toNat ≤ 0xFFE ∧ (caller + 2).toNat = caller.toNat + 2 := by
  obtain ⟨some, _, _, top⟩ := CallStack.pop_slots popped
  have small := bounded.slots_le stack.depth some
  rw [← top] at small
  refine ⟨small, ?_⟩
  simp only [UInt16.toNat_add, UInt16.reduceToNat]
  omega

/-- A register added to an address does not wrap around. -/
theorem toNat_offset (offset : UInt8) {base : UInt16} (small : base.toNat < 0x1000) :
    (offset.toUInt16 + base).toNat = offset.toNat + base.toNat := by
  have byte := offset.toNat_lt
  simp only [UInt16.toNat_add, UInt8.toNat_toUInt16]
  omega

/-- Where an instruction sends the program counter from a readable address. -/
theorem execute_counter_le {word : UInt16} {instruction : Instruction} {effect : Effect}
    (bounded : machine.Bounded) (readable : machine.counter.toNat ≤ 0xFFE)
    (decoded : Instruction.ofWord? word = some instruction)
    (done : machine.execute instruction = .ok effect) :
    (effect.flow.follow machine.counter).toNat ≤ 0x10FE := by
  have fits := Instruction.ofWord?_encodable decoded
  apply toNat_follow_le readable
  intro target flow
  cases instruction with
  | jump address =>
    cases done
    cases flow
    exact Nat.le_trans (Nat.le_of_lt fits) (by decide)
  | call address =>
    obtain ⟨stack, _, done⟩ := bind_ok done
    cases done
    cases flow
    exact Nat.le_trans (Nat.le_of_lt fits) (by decide)
  | subReturn =>
    obtain ⟨⟨caller, stack⟩, popped, done⟩ := bind_ok done
    cases done
    cases flow
    obtain ⟨small, behind⟩ := toNat_popped bounded popped
    omega
  | jumpOffset base =>
    cases done
    cases flow
    have offset := (machine.reg 0).toNat_lt
    have small : base.toNat < 0x1000 := fits
    rw [toNat_offset _ small]
    omega
  | draw _ _ _ | storeDigits _ | storeRegisters _ | loadRegisters _ =>
    obtain ⟨value, _, done⟩ := bind_ok done
    cases done
    cases flow
  | skipIfEqualByte _ _ | skipIfNotEqualByte _ _ | skipIfEqual _ _ | skipIfNotEqual _ _
  | skipIfKeyPressed _ | skipIfKeyNotPressed _ =>
    cases done
    simp only [go, Flow.skipIf] at flow
    split at flow <;> cases flow
  | _ =>
    cases done
    cases flow

/-! ## Cycles and operations -/

/-- What a cycle does before it is counted leaves the divider and the rate alone. -/
theorem attempt_frame (machine : Machine) :
    machine.attempt.machine.divider = machine.divider ∧
      machine.attempt.machine.rate = machine.rate := by
  rcases attempt_cases machine with ⟨_, effect, done, _, after⟩ | ⟨_, _, after⟩
  · obtain ⟨_, divider, _, rate⟩ := execute_frame done
    rw [after]
    exact ⟨divider, rate⟩
  · rw [after]
    exact ⟨rfl, rfl⟩

theorem countCycle_divider (bounded : machine.Bounded) :
    1 ≤ machine.countCycle.1.divider ∧ machine.countCycle.1.divider ≤ machine.cyclesPerTick := by
  have pos := bounded.divider_pos
  have le := bounded.divider_le
  unfold countCycle
  split
  · exact ⟨cyclesPerTick_pos machine, Nat.le_refl _⟩
  · dsimp only
    omega

theorem countCycle_bounded (bounded : machine.Bounded) : machine.countCycle.1.Bounded := by
  have divider := countCycle_divider bounded
  constructor
  · simpa using bounded.counter_le
  · simpa using bounded.slots_le
  · exact divider.1
  · simpa [cyclesPerTick] using divider.2
  · simpa using bounded.keyWait_lt

/-- A word that was read lies whole in memory. -/
theorem readable_of_readWord {word : UInt16}
    (read : machine.memory.readWord machine.counter.toNat = .ok word) :
    machine.counter.toNat ≤ 0xFFE := by
  obtain ⟨inside, _⟩ := Memory.readWord_eq_ok_iff.mp read
  exact Nat.le_of_lt_succ (Nat.lt_of_succ_lt_succ inside)

theorem moved_bounded {word : UInt16} {instruction : Instruction} {effect : Effect}
    (bounded : machine.Bounded)
    (read : machine.memory.readWord machine.counter.toNat = .ok word)
    (decoded : Instruction.ofWord? word = some instruction)
    (done : machine.execute instruction = .ok effect) : (machine.moved effect).Bounded := by
  have readable := readable_of_readWord read
  obtain ⟨_, divider, _, rate⟩ := execute_frame done
  constructor
  · exact execute_counter_le bounded readable decoded done
  · exact execute_slots_le bounded readable done
  · simpa [moved, divider] using bounded.divider_pos
  · simpa [moved, divider, cyclesPerTick, rate] using bounded.divider_le
  · exact fun x => execute_keyWait_lt bounded decoded done

theorem step_bounded (bounded : machine.Bounded) : machine.step.machine.Bounded := by
  have way := step_cases machine
  generalize machine.step = outcome at way ⊢
  cases way with
  | waits wait => exact countCycle_bounded bounded
  | unreadable free unread => exact bounded
  | skips free read unknown =>
    have readable := readable_of_readWord read
    apply countCycle_bounded
    refine { bounded with counter_le := ?_ }
    show (Flow.next.follow machine.counter).toNat ≤ 0x10FE
    exact toNat_follow_le readable (fun _ h => nomatch h)
  | faults free read decoded failed => exact bounded
  | executes free read decoded done =>
    exact countCycle_bounded (moved_bounded bounded read decoded done)

theorem powerOn_bounded (rate : UInt32) (random : RandomSource) :
    (powerOn rate random).Bounded where
  counter_le := (by decide : startCounter.toNat ≤ 0x10FE)
  slots_le i inside := by simp [powerOn, CallStack.empty]
  divider_pos := Nat.le_max_left _ _
  divider_le := Nat.le_refl _
  keyWait_lt _ h := nomatch h

theorem load_bounded (bounded : machine.Bounded) (program : List UInt8) :
    (machine.load program).machine.Bounded := by
  obtain ⟨memory, same⟩ := load_eq machine program
  rw [same]
  exact { bounded with }

theorem tick_bounded (bounded : machine.Bounded) : machine.tick.1.Bounded :=
  { bounded with }

theorem applyKeys_bounded (bounded : machine.Bounded) (keys : Keypad) :
    (machine.applyKeys keys).1.Bounded := by
  obtain ⟨registers, keyWait, ended, same⟩ := applyKeys_eq machine keys
  rw [same]
  refine { bounded with keyWait_lt := fun x wait => ?_ }
  rcases ended with rfl | rfl
  · cases wait
  · exact bounded.keyWait_lt x wait

theorem apply_bounded (bounded : machine.Bounded) (operation : Operation) :
    (machine.apply operation).machine.Bounded := by
  cases operation with
  | load program => exact load_bounded bounded program
  | step => exact step_bounded bounded
  | tick => exact tick_bounded bounded
  | input keys => exact applyKeys_bounded bounded keys
  | reset => exact powerOn_bounded machine.rate machine.random

theorem run_bounded (bounded : machine.Bounded) (operations : List Operation) :
    (machine.run operations).Bounded := by
  induction operations generalizing machine with
  | nil => exact bounded
  | cons operation rest ih => exact ih (apply_bounded bounded operation)

theorem Reachable.bounded (reachable : Reachable machine) : machine.Bounded := by
  induction reachable with
  | start rate random => exact powerOn_bounded rate random
  | next operation _ ih => exact apply_bounded ih operation

/-! ## Runs -/

/-- No operation changes the rate. -/
theorem apply_rate (machine : Machine) (operation : Operation) :
    (machine.apply operation).machine.rate = machine.rate := by
  cases operation with
  | load program =>
    obtain ⟨memory, same⟩ := load_eq machine program
    show (machine.load program).machine.rate = machine.rate
    rw [same]
  | step =>
    have way := step_cases machine
    show machine.step.machine.rate = machine.rate
    generalize machine.step = outcome at way ⊢
    cases way with
    | waits _ => exact countCycle_rate machine
    | unreadable _ _ => rfl
    | faults _ _ _ _ => rfl
    | skips _ _ _ => exact countCycle_rate _
    | executes _ _ _ done =>
      obtain ⟨_, _, _, rate⟩ := execute_frame done
      exact (countCycle_rate _).trans rate
  | tick => rfl
  | input keys =>
    obtain ⟨_, _, _, same⟩ := applyKeys_eq machine keys
    show (machine.applyKeys keys).1.rate = machine.rate
    rw [same]
  | reset => simp only [apply, reset]

theorem run_rate (machine : Machine) (operations : List Operation) :
    (machine.run operations).rate = machine.rate := by
  induction operations generalizing machine with
  | nil => rfl
  | cons operation rest ih => exact (ih (machine.apply operation).machine).trans (apply_rate _ _)

theorem run_append (machine : Machine) (first second : List Operation) :
    machine.run (first ++ second) = (machine.run first).run second :=
  List.foldl_append

theorem Reachable.run (reachable : Reachable machine) (operations : List Operation) :
    Reachable (machine.run operations) := by
  induction operations generalizing machine with
  | nil => exact reachable
  | cons operation rest ih => exact ih (reachable.next operation)

end Machine
end Chip8
