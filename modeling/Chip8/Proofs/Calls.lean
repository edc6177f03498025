import Chip8.Proofs.Bounds

/-!
# Calls and returns

Of all operations only a call and a return move the stack, and by one entry. So what lies below an
entry stays as long as that entry does, whatever is executed meanwhile, and the return that takes
the entry of a call off goes on behind that call.
-/
namespace Chip8.Machine

variable {machine : Machine} {operation : Operation} {k : Nat}

theorem apply_step (machine : Machine) :
    (machine.apply .step).machine = machine.step.machine := rfl

inductive StackMove (before : Machine) (operation : Operation) (after : Machine) : Prop where
  | stays (same : after.stack = before.stack)
  | calls {target : UInt16} (stepped : operation = .step)
    (executed : before.step.result = .ok (.executed (.call target)))
    (pushed : after.stack.entries = before.stack.entries ++ [before.counter])
  | returns (caller : UInt16) (stepped : operation = .step)
    (executed : before.step.result = .ok (.executed .subReturn))
    (popped : before.stack.entries = after.stack.entries ++ [caller])
    (behind : after.counter = caller + 2)

/-- What an instruction does to the stack, and where a return goes on. -/
theorem moved_stack {instruction : Instruction} {effect : Effect}
    (done : machine.execute instruction = .ok effect) :
    (machine.moved effect).stack = machine.stack ∨
      (∃ target, instruction = .call target ∧
        (machine.moved effect).stack.entries = machine.stack.entries ++ [machine.counter]) ∨
      instruction = .subReturn ∧ ∃ caller,
        machine.stack.entries = (machine.moved effect).stack.entries ++ [caller] ∧
        (machine.moved effect).counter = caller + 2 := by
  by_cases other : instruction.part? = some .stack
  · cases instruction with
    | subReturn =>
      obtain ⟨⟨caller, stack⟩, popped, done⟩ := bind_ok done
      cases done
      exact .inr (.inr ⟨rfl, caller, CallStack.entries_pop popped, rfl⟩)
    | call target =>
      obtain ⟨stack, pushed, done⟩ := bind_ok done
      cases done
      exact .inr (.inl ⟨target, rfl, CallStack.entries_push pushed⟩)
    | _ => cases other
  · exact .inl (execute_same done .stack other)

theorem step_stackMove (machine : Machine) : StackMove machine .step machine.step.machine := by
  have way := step_cases machine
  generalize stepped : machine.step = outcome at way
  cases way with
  | waits wait => exact .stays (countCycle_stack machine)
  | unreadable free unread => exact .stays rfl
  | skips free read unknown => exact .stays (countCycle_stack _)
  | faults free read decoded failed => exact .stays rfl
  | executes free read decoded done =>
    rcases moved_stack done with same | ⟨target, rfl, pushed⟩ | ⟨rfl, caller, popped, behind⟩
    · exact .stays ((countCycle_stack _).trans same)
    · refine .calls rfl (congrArg Outcome.result stepped) ?_
      simpa [counted] using pushed
    · refine .returns caller rfl (congrArg Outcome.result stepped) ?_ ?_
      · simpa [counted] using popped
      · simpa [counted] using behind

/-- Every operation but starting over leaves the stack alone, calls or returns. -/
theorem apply_stackMove (machine : Machine) (kept : operation ≠ .reset) :
    StackMove machine operation (machine.apply operation).machine := by
  cases operation with
  | load program =>
    obtain ⟨memory, same⟩ := load_eq machine program
    refine .stays ?_
    show (machine.load program).machine.stack = machine.stack
    rw [same]
  | step => exact step_stackMove machine
  | tick => exact .stays rfl
  | input keys =>
    obtain ⟨registers, keyWait, _, same⟩ := applyKeys_eq machine keys
    refine .stays ?_
    show (machine.applyKeys keys).1.stack = machine.stack
    rw [same]
  | reset => exact absurd rfl kept

/-- The lowest entries stay as long as there are so many. -/
theorem StackMove.take {before after : Machine} (move : StackMove before operation after)
    (above : k < before.stack.depth) (still : k < after.stack.depth) :
    after.stack.entries.take (k + 1) = before.stack.entries.take (k + 1) := by
  cases move with
  | stays same => rw [same]
  | calls _ _ pushed =>
    rw [pushed, List.take_append_of_le_length]
    rw [CallStack.length_entries]
    exact above
  | returns _ _ _ popped _ =>
    rw [popped, List.take_append_of_le_length]
    rw [CallStack.length_entries]
    exact still

/-- The entry that an operation takes off is the one that a return goes on behind. -/
theorem StackMove.leaves {before after : Machine} {base : List UInt16} {caller : UInt16}
    (move : StackMove before operation after) (above : k < before.stack.depth)
    (fallen : after.stack.depth ≤ k)
    (frame : before.stack.entries.take (k + 1) = base ++ [caller]) :
    operation = .step ∧ before.step.result = .ok (.executed .subReturn) ∧
      after.stack.entries = base ∧ after.counter = caller + 2 := by
  cases move with
  | stays same =>
    rw [same] at fallen
    omega
  | calls _ _ pushed =>
    have length := congrArg List.length pushed
    simp only [List.length_append, CallStack.length_entries] at length
    omega
  | returns _ stepped executed popped behind =>
    have length := congrArg List.length popped
    simp only [List.length_append, List.length_singleton, CallStack.length_entries] at length
    rw [popped, List.take_of_length_le (by simp [CallStack.length_entries]; omega)] at frame
    obtain ⟨same, last⟩ := List.append_inj' frame rfl
    cases last
    exact ⟨stepped, executed, same, behind⟩

/-- The lowest entries stay over a whole run that never falls below them. -/
theorem run_take (operations : List Operation) (kept : .reset ∉ operations)
    (above : ∀ before, before <+: operations → k < (machine.run before).stack.depth) :
    (machine.run operations).stack.entries.take (k + 1) = machine.stack.entries.take (k + 1) := by
  induction operations generalizing machine with
  | nil => rfl
  | cons operation rest ih =>
    have now : k < machine.stack.depth := above [] (List.nil_prefix)
    have next : k < (machine.apply operation).machine.stack.depth :=
      above [operation] (by simp)
    have other : operation ≠ .reset := fun reset => kept (by simp [reset])
    have move := apply_stackMove machine other
    rw [← move.take now next]
    refine ih (fun member => kept (List.mem_cons_of_mem _ member)) fun before leading => ?_
    exact above (operation :: before) ((List.prefix_cons_inj operation).mpr leading)

/-- A call that was executed was read whole from memory, and its address is on the stack. -/
theorem step_call {target : UInt16}
    (called : machine.step.result = .ok (.executed (.call target))) :
    machine.counter.toNat ≤ 0xFFE ∧ machine.stack.depth < 16 ∧
      machine.step.machine.stack.entries = machine.stack.entries ++ [machine.counter] := by
  have way := step_cases machine
  generalize machine.step = outcome at way called ⊢
  cases way with
  | executes free read decoded done =>
    cases called
    obtain ⟨stack, pushed, done⟩ := bind_ok done
    cases done
    obtain ⟨room, _, _⟩ := CallStack.push_slots pushed
    refine ⟨readable_of_readWord read, room, ?_⟩
    rw [counted, countCycle_stack]
    exact CallStack.entries_push pushed
  | _ => cases called

/-- From a call on, as long as the stack stays above where it was, the pending calls of then and the
call itself stay below; and the operation that brings the stack back to where it was is a return,
which leaves these calls pending and goes on behind the call. -/
theorem call_bracket {target : UInt16}
    (called : machine.step.result = .ok (.executed (.call target)))
    (operations : List Operation) (kept : .reset ∉ operations)
    (above : ∀ before, before <+: operations →
      machine.stack.depth < (machine.step.machine.run before).stack.depth) :
    (machine.step.machine.run operations).stack.entries.take (machine.stack.depth + 1) =
        machine.stack.entries ++ [machine.counter] ∧
      ∀ operation, operation ≠ .reset →
        ∀ after, after = ((machine.step.machine.run operations).apply operation).machine →
        after.stack.depth ≤ machine.stack.depth →
        operation = .step ∧
          (machine.step.machine.run operations).step.result = .ok (.executed .subReturn) ∧
          after.counter.toNat = machine.counter.toNat + 2 ∧
          after.stack.entries = machine.stack.entries := by
  obtain ⟨readable, _, pushed⟩ := step_call called
  have whole : (machine.stack.entries ++ [machine.counter]).take (machine.stack.depth + 1) =
      machine.stack.entries ++ [machine.counter] :=
    List.take_of_length_le (by simp [CallStack.length_entries])
  have frame := run_take operations kept above
  rw [pushed, whole] at frame
  refine ⟨frame, ?_⟩
  rintro operation other after rfl fallen
  have move := apply_stackMove (machine.step.machine.run operations) other
  obtain ⟨stepped, executed, same, behind⟩ :=
    move.leaves (above operations (List.prefix_refl _)) fallen frame
  refine ⟨stepped, executed, ?_, same⟩
  rw [behind]
  simp only [UInt16.toNat_add, UInt16.reduceToNat]
  omega

/-- A machine whose program calls the one instruction of a subroutine. -/
def callingOnce : Machine :=
  ((powerOn 500 (.constant 0)).load [0x22, 0x04, 0x00, 0x00, 0x60, 0x01, 0x00, 0xEE]).machine

theorem callingOnce_returns :
    callingOnce.step.result = .ok (.executed (.call 0x204)) ∧
      (callingOnce.step.machine.run [.step]).step.result = .ok (.executed .subReturn) ∧
      (callingOnce.step.machine.run [.step]).step.machine.counter.toNat = 0x202 ∧
      (callingOnce.step.machine.run [.step]).step.machine.stack.entries = [] := by
  have called : callingOnce.step.result = .ok (.executed (.call 0x204)) := by
    apply ok_of_toOption
    decide +kernel
  have above : ∀ before, before <+: [.step] →
      callingOnce.stack.depth < (callingOnce.step.machine.run before).stack.depth := by
    intro before leading
    rcases List.prefix_cons_iff.mp leading with rfl | ⟨rest, rfl, none⟩
    · decide +kernel
    · cases List.prefix_nil.mp none
      decide +kernel
  have fallen : ((callingOnce.step.machine.run [.step]).apply .step).machine.stack.depth ≤
      callingOnce.stack.depth := by
    decide +kernel
  have address : callingOnce.counter.toNat = 0x200 := by decide +kernel
  have empty : callingOnce.stack.entries = [] := by decide +kernel
  obtain ⟨_, returns⟩ := call_bracket called [.step] (by decide) above
  obtain ⟨_, executed, behind, entries⟩ := returns .step nofun _ rfl fallen
  rw [apply_step, address] at behind
  rw [apply_step, empty] at entries
  exact ⟨called, executed, behind, entries⟩

end Chip8.Machine
