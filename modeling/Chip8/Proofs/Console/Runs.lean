import Chip8.Proofs.Console.Halting
import Chip8.Proofs.LastingFaults

/-!
# Records are runs

What a console has its machine do is a run of the machine: the record, read as operations, leads to
where the machine stands, and the results that were written down are those of the cycles of the run.
So what holds of every run of a machine holds of a console, whatever it is called for.
-/
namespace Chip8

def Deed.operation (rom : List UInt8) : Deed → Operation
  | .polled keys => .input keys
  | .cycled _ => .step
  | .reset => .reset
  | .loaded _ => .load rom

/-- The second of two operations is performed where the first one led. -/
theorem Machine.run_pair (machine : Machine) (first second : Operation) :
    machine.run [first, second] = ((machine.apply first).machine.apply second).machine := rfl

namespace Console

/-- No turn exchanges the program that is kept for a restart. -/
theorem take_rom {console : Console} {patience : Nat} {turn : Turn} {reaction : Reaction}
    (answered : console.take patience turn = some reaction) :
    reaction.console.rom = console.rom := by
  obtain ⟨now, callback⟩ := turn
  cases callback with
  | resumed desktop =>
    cases answered
    obtain ⟨_, _, opened⟩ := resumed_placed console desktop now
    rw [opened]
    rfl
  | window desktop event =>
    cases answered
    exact (windowEvent_keeps console desktop now event).rom
  | aboutToWait => exact (aboutToWait_keeps answered).rom

theorem runCycle_machine (console : Console) :
    console.runCycle.1.machine = console.machine.step.machine := by
  obtain ⟨_, ran⟩ := runCycle_eq console
  rw [ran]
  rfl

theorem loadRom_machine (console : Console) :
    console.loadRom.1.machine = (console.machine.apply (.load console.rom)).machine := rfl

theorem restart_machine (console : Console) (now : Nat) :
    (console.restart now).1.machine = console.machine.run [.reset, .load console.rom] := by
  have powered : console.cleared.machine = (console.machine.apply .reset).machine := rfl
  have kept : console.cleared.rom = console.rom := (cleared_keeps console).rom
  have loaded : console.cleared.loadRom.1.machine =
      console.machine.run [.reset, .load console.rom] := by
    rw [loadRom_machine, powered, kept, Machine.run_pair]
  rw [restart_eq]
  split
  · exact loaded
  · exact loaded

end Console

namespace Recorder

def operations (rom : List UInt8) (recorder : Recorder) : List Operation :=
  recorder.deeds.map (Deed.operation rom)

/-- The record is a run that has led the machine from its start to where it stands. -/
structure Tells (start : Machine) (rom : List UInt8) (recorder : Recorder) : Prop where
  program : recorder.console.rom = rom
  machine : recorder.console.machine = start.run (recorder.operations rom)
  results : recorder.results = start.results (recorder.operations rom)

variable {start : Machine} {rom : List UInt8} {recorder after : Recorder} {patience : Nat}
  {turn : Turn} {turns : List Turn}

/-- The record is carried on by deeds that are a run from where the machine stands. -/
theorem Tells.append (tells : recorder.Tells start rom) {console : Console} {deeds : List Deed}
    (same : console.rom = rom)
    (machine : console.machine = recorder.console.machine.run (deeds.map (Deed.operation rom)))
    (results : deeds.filterMap Deed.result? =
      recorder.console.machine.results (deeds.map (Deed.operation rom))) :
    Tells start rom ⟨console, recorder.deeds ++ deeds⟩ := by
  have split : operations rom ⟨console, recorder.deeds ++ deeds⟩ =
      recorder.operations rom ++ deeds.map (Deed.operation rom) := List.map_append
  constructor
  case program => exact same
  case machine => rw [split, Machine.run_append, ← tells.machine, machine]
  case results =>
    rw [split, Machine.results_append, ← tells.machine, ← tells.results, ← results]
    exact List.filterMap_append

theorem Tells.poll (tells : recorder.Tells start rom) : recorder.poll.Tells start rom :=
  tells.append tells.program rfl rfl

theorem Tells.runCycle (tells : recorder.Tells start rom) : recorder.runCycle.Tells start rom :=
  tells.append ((Console.runCycle_keeps _).rom.trans tells.program) (Console.runCycle_machine _) rfl

theorem Tells.restart (tells : recorder.Tells start rom) (now : Nat) :
    (recorder.restart now).Tells start rom := by
  refine tells.append ((Console.restart_keeps _ now).rom.trans tells.program) ?_ ?_
  · rw [Console.restart_machine, tells.program]
    rfl
  · rfl

theorem Tells.aside (tells : recorder.Tells start rom) {console : Console}
    (machine : console.machine = recorder.console.machine) (same : console.rom = rom) :
    Tells start rom { recorder with console := console } :=
  ⟨same, machine.trans tells.machine, tells.results⟩

/-- Moving the clock is no deed. -/
theorem Tells.atTime (tells : recorder.Tells start rom) (time : Nat) :
    Tells start rom { recorder with console := recorder.console.atTime time } :=
  tells.aside rfl tells.program

theorem Tells.caughtUp (tells : recorder.Tells start rom) (n : Nat) :
    (recorder.caughtUp n).Tells start rom := by
  have ran : Tells start rom ⟨(recorder.console.poll.1.stretch n).console,
      recorder.poll.deeds ++ (recorder.console.poll.1.stretch n).results.map .cycled⟩ := by
    refine Console.stretch_induction (P := fun console results =>
      Tells start rom ⟨console, recorder.poll.deeds ++ results.map .cycled⟩) ?_ ?_ n
    · intro console results _ tells
      rw [List.map_append, ← List.append_assoc]
      exact tells.runCycle
    · rw [List.map_nil, List.append_nil]
      exact tells.poll
  exact ran.atTime _

theorem Tells.after_turn (way : TurnCase recorder turn after)
    (rom_kept : after.console.rom = recorder.console.rom) (tells : recorder.Tells start rom) :
    after.Tells start rom := by
  cases way with
  | rests _ _ => exact tells
  | aside _ _ _ same _ => exact tells.aside same.machine (rom_kept.trans tells.program)
  | byHand _ => exact tells.poll.runCycle
  | startsOver _ => exact tells.restart turn.now
  | runs n _ _ _ _ _ _ => exact tells.caughtUp n

/-- Whatever a console is called for, its record is a run of its machine. -/
theorem attend_tells (tells : recorder.Tells start rom)
    (attended : recorder.attend patience turns = some after) : after.Tells start rom := by
  induction turns generalizing recorder with
  | nil =>
    cases attended
    exact tells
  | cons turn rest ih =>
    obtain ⟨next, taken, attended⟩ := Option.bind_eq_some_iff.mp attended
    have erased := take_console recorder patience turn
    rw [taken, Option.map_some] at erased
    obtain ⟨reaction, answered, same⟩ := Option.map_eq_some_iff.mp erased.symm
    have kept : next.console.rom = recorder.console.rom := same ▸ Console.take_rom answered
    exact ih (tells.after_turn (take_cases taken) kept) attended

theorem start_tells (console : Console) :
    (Recorder.start console).Tells console.machine console.rom :=
  ⟨rfl, rfl, rfl⟩

/-- A console that is not started over leaves its program in place. -/
theorem attend_leaves (kept : ∀ turn ∈ turns, turn.callback.isRestart = false)
    (before : ∀ operation ∈ recorder.operations rom, operation.LeavesProgram)
    (attended : recorder.attend patience turns = some after) :
    ∀ operation ∈ after.operations rom, operation.LeavesProgram := by
  refine attend_induction
    (P := fun recorder => ∀ operation ∈ recorder.operations rom, operation.LeavesProgram)
    (fun turn member before after way leaves => ?_) before attended
  cases way with
  | rests _ _ | aside _ _ _ _ _ => exact leaves
  | byHand _ =>
    simp only [operations, runCycle_deeds, poll_deeds, List.map_append, List.forall_mem_append,
      List.map_singleton, List.forall_mem_singleton]
    exact ⟨⟨leaves, trivial⟩, trivial⟩
  | startsOver pressed =>
    rw [kept turn member] at pressed
    cases pressed
  | runs n _ _ _ _ _ _ =>
    simp only [operations, caughtUp_deeds, List.map_append, List.map_cons, List.forall_mem_append,
      List.forall_mem_cons, List.forall_mem_map]
    exact ⟨List.forall_mem_map.mp leaves, trivial, fun _ _ => trivial⟩

/-- What a console that is not started over has had its machine do is a run that leaves the program
in place, and only its last cycle can have halted the console. -/
theorem attend_run {console : Console} (kept : ∀ turn ∈ turns, turn.callback.isRestart = false)
    (attended : (Recorder.start console).attend patience turns = some after) :
    after.Tells console.machine console.rom ∧
      (∀ operation ∈ after.operations console.rom, operation.LeavesProgram) ∧
      EndsLast console.halted after.console after.results := by
  have before : EndsLast console.halted console [] := ⟨List.Pairwise.nil, by simp⟩
  exact ⟨attend_tells (start_tells console) attended,
    attend_leaves kept (by simp [operations, Recorder.start]) attended,
    attend_endsLast kept before attended⟩

end Recorder
end Chip8
