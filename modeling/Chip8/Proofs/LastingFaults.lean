import Chip8.Proofs.Bare.Requests
import Chip8.Proofs.Faults
import Chip8.Proofs.KeyWait
import Chip8.Proofs.Moments

/-!
# Faults that last

Whether a cycle faults, and how, is a matter of memory, the stack, the program counter and the index
register. Keys and timers have no part in it, and they are all that a machine whose cycle faults
will change while no program is put into it and it does not start over. So it faults at every cycle
from then on, and every time in the same way.
-/
namespace Chip8

/-- Operations that leave the program to itself: none is put into memory, and nothing starts
over. -/
def Operation.LeavesProgram : Operation → Prop
  | .load _ | .reset => False
  | .step | .tick | .input _ => True

namespace Machine

/-- A machine that differs at most in its keys and its timers. -/
def Stalls (before after : Machine) : Prop :=
  ∃ keys delay sound, after = { before with keys := keys, delay := delay, sound := sound }

variable {machine before after : Machine} {operation : Operation} {fault : Fault}

theorem Stalls.refl (machine : Machine) : Stalls machine machine :=
  ⟨machine.keys, machine.delay, machine.sound, rfl⟩

theorem Stalls.trans (first : Stalls machine before) (second : Stalls before after) :
    Stalls machine after := by
  obtain ⟨_, _, _, rfl⟩ := first
  obtain ⟨keys, delay, sound, rfl⟩ := second
  exact ⟨keys, delay, sound, rfl⟩

/-- The conditions of a fault read neither the keys nor a timer. -/
theorem Stalls.cycleFault (stalls : Stalls before after) (conditions : before.CycleFault fault) :
    after.CycleFault fault := by
  obtain ⟨_, _, _, rfl⟩ := stalls
  cases conditions with
  | unreadable beyond => exact .unreadable beyond
  | underflow held returns none => exact .underflow held returns none
  | overflow held calls full => exact .overflow held calls full
  | outside held moves beyond => exact .outside held moves beyond

theorem Stalls.keyWait (stalls : Stalls before after) : after.keyWait = before.keyWait := by
  obtain ⟨_, _, _, rfl⟩ := stalls
  rfl

theorem Stalls.counter (stalls : Stalls before after) : after.counter = before.counter := by
  obtain ⟨_, _, _, rfl⟩ := stalls
  rfl

/-- Other keys and other timers do not help a cycle that faults. -/
theorem Stalls.step_fails (stalls : Stalls before after)
    (failed : before.step.result = .error fault) : after.step.result = .error fault := by
  obtain ⟨free, conditions⟩ := step_error_iff.mp failed
  exact step_error_iff.mpr ⟨stalls.keyWait.trans free, stalls.cycleFault conditions⟩

/-! ## Operations on a machine whose cycle faults -/

theorem apply_stalls (failed : machine.step.result = .error fault)
    (leaves : operation.LeavesProgram) : Stalls machine (machine.apply operation).machine := by
  cases operation with
  | load _ | reset => exact leaves.elim
  | step =>
    have same : (machine.apply .step).machine = machine := (step_error_frame failed).1
    rw [same]
    exact .refl machine
  | tick => exact ⟨machine.keys, _, _, rfl⟩
  | input keys =>
    -- a cycle that faults has found no wait for a key, so the keys are only remembered
    have free := (step_error_iff.mp failed).1
    show Stalls machine (machine.applyKeys keys).1
    rw [applyKeys_of_idle (.inl free)]
    exact ⟨keys, machine.delay, machine.sound, rfl⟩

theorem run_stalls {operations : List Operation} (failed : machine.step.result = .error fault)
    (leave : ∀ operation ∈ operations, operation.LeavesProgram) :
    Stalls machine (machine.run operations) := by
  induction operations generalizing machine with
  | nil => exact .refl machine
  | cons operation rest ih =>
    have first := apply_stalls failed (leave operation (by simp))
    have later := ih (first.step_fails failed) fun other member =>
      leave other (List.mem_cons_of_mem _ member)
    exact first.trans later

/-- Every moment of such a run begins on a machine that has stood still so far. -/
theorem moments_stall {operations : List Operation} (failed : machine.step.result = .error fault)
    (leave : ∀ operation ∈ operations, operation.LeavesProgram) :
    ∀ moment ∈ machine.moments operations,
      Stalls machine moment.before ∧ moment.operation.LeavesProgram := by
  induction operations generalizing machine with
  | nil => exact fun _ member => nomatch member
  | cons operation rest ih =>
    intro moment member
    have now := leave operation (by simp)
    rcases List.mem_cons.mp member with rfl | later
    · exact ⟨.refl machine, now⟩
    · have first := apply_stalls failed now
      obtain ⟨still, leaves⟩ := ih (first.step_fails failed)
        (fun other member => leave other (List.mem_cons_of_mem _ member)) moment later
      exact ⟨first.trans still, leaves⟩

/-- A cycle of a reachable machine that faults, and any number of cycles, ticks and keys after it.
The cycle has changed nothing; every further one faults in the same way; no wait for a key begins;
and at every moment the machine differs at most in its keys and its timers. The same is left where
the changes are made in place one after another. -/
theorem fault_persists (reachable : Reachable machine) (failed : machine.step.result = .error fault)
    (requests : List Request) (leave : ∀ request ∈ requests, request.operation.LeavesProgram) :
    machine.step.machine = machine ∧
      (∀ moment ∈ machine.moments (requests.map Request.operation),
        Stalls machine moment.before ∧ Stalls machine moment.after ∧
        moment.before.keyWait = none ∧ moment.after.keyWait = none ∧
        (moment.operation = .step → moment.before.step.result = .error fault)) ∧
      ∀ told, ∃ keys delay sound events,
        Bare.serveAll (Bare.ofMachine machine, told) requests =
          some ({ Bare.ofMachine machine with keys := keys, delay := delay, sound := sound },
            events) := by
  have leaves : ∀ operation ∈ requests.map Request.operation, operation.LeavesProgram := by
    intro operation member
    obtain ⟨request, asked, rfl⟩ := List.mem_map.mp member
    exact leave request asked
  have free : machine.keyWait = none := (step_error_iff.mp failed).1
  refine ⟨(step_error_frame failed).1, fun moment member => ?moments, fun told => ?bare⟩
  case moments =>
    obtain ⟨still, leaves⟩ := moments_stall failed leaves moment member
    have next : Stalls moment.before moment.after := apply_stalls (still.step_fails failed) leaves
    refine ⟨still, still.trans next, still.keyWait.trans free, ?_, fun _ => still.step_fails failed⟩
    exact (still.trans next).keyWait.trans free
  case bare =>
    obtain ⟨keys, delay, sound, stalled⟩ := run_stalls failed leaves
    refine ⟨keys.bits, delay, sound, told ++ machine.history (requests.map Request.operation), ?_⟩
    rw [Bare.serveAll_ofMachine told reachable.bounded, stalled]
    rfl

/-- A machine that has set its delay timer to seven and goes on to a return without a call. -/
def returningNowhere : Machine :=
  (powerOn 500 (.constant 0)).run [.load [0x60, 0x07, 0xF0, 0x15, 0x00, 0xEE], .step, .step]

/-- Ticks and keys come and go, and the return still finds no call. -/
theorem returningNowhere_persists : Reachable returningNowhere ∧
    returningNowhere.step.result = .error (.stackUnderflow 0x204) ∧
    ∀ moment ∈ returningNowhere.moments [.step, .tick, .input ⟨0x20⟩, .step],
      moment.after.counter = 0x204 ∧
      (moment.operation = .step →
        moment.before.step.result = .error (.stackUnderflow 0x204)) := by
  have reachable : Reachable returningNowhere := .run (.start 500 (.constant 0))
    [.load [0x60, 0x07, 0xF0, 0x15, 0x00, 0xEE], .step, .step]
  have stands : (returningNowhere.counter, returningNowhere.keyWait,
      returningNowhere.stack.depth, (returningNowhere.memory.readWord 0x204).toOption) =
      (0x204, none, 0, some 0x00EE) := by
    decide +kernel
  simp only [Prod.mk.injEq] at stands
  obtain ⟨counter, free, empty, found⟩ := stands
  have held : returningNowhere.memory.HoldsWord returningNowhere.counter.toNat 0x00EE := by
    rw [counter]
    exact Memory.readWord_eq_ok_iff.mp (ok_of_toOption found)
  have failed : returningNowhere.step.result = .error (.stackUnderflow 0x204) := by
    rw [step_error_iff, ← counter]
    exact ⟨free, .underflow held rfl empty⟩
  have leave : ∀ request ∈ [.step, .tick, .input 0x20, .step],
      (Request.operation request).LeavesProgram := by
    simp [Request.operation, Operation.LeavesProgram]
  obtain ⟨_, moments, _⟩ := fault_persists reachable failed [.step, .tick, .input 0x20, .step] leave
  refine ⟨reachable, failed, fun moment member => ?_⟩
  obtain ⟨_, after, _, _, fails⟩ := moments moment member
  exact ⟨after.counter.trans counter, fails⟩

end Machine
end Chip8
