import Chip8.Proofs.Counter
import Chip8.Proofs.Faults
import Chip8.Proofs.Console.Pace
import Chip8.Proofs.Console.Runs

/-!
# Progress without jumps

Beside jumps, calls, returns and waits for a key, every cycle that goes through moves the program
counter on, and it can do so only while there are words left. So a machine that does none of these
faults before it has gone once through memory, whatever it writes over its program, whatever is
loaded in the meantime and wherever it began. A console of such a machine halts.
-/
namespace Chip8

/-- A cycle that can send the program counter back, or leave it where it is: a jump, a call, a
return, or a wait for a key. -/
def Cycle.turns : Cycle → Bool
  | .executed (.jump _) | .executed (.call _) | .executed (.jumpOffset _) => true
  | .executed .subReturn => true
  | .awaitingKey => true
  | .executed _ | .decodeFault _ => false

namespace Machine

variable {machine : Machine} {cycle : Cycle} {operations : List Operation}

/-- The words from the program counter to the end of memory. -/
def room (machine : Machine) : Nat :=
  (Memory.size - machine.counter.toNat) / 2

theorem room_le (machine : Machine) : machine.room ≤ 2048 := by
  simp only [room, Memory.size]
  omega

/-! ## One cycle -/

theorem flow_of_onward {instruction : Instruction} {effect : Effect}
    (onward : Cycle.turns (.executed instruction) = false)
    (done : machine.execute instruction = .ok effect) :
    effect.flow = .next ∨ effect.flow = .skip := by
  cases instruction with
  | jump _ | call _ | jumpOffset _ | subReturn => cases onward
  | skipIfEqualByte _ _ | skipIfNotEqualByte _ _ | skipIfEqual _ _ | skipIfNotEqual _ _
  | skipIfKeyPressed _ | skipIfKeyNotPressed _ =>
    cases done
    exact skipIf_cases _
  | draw _ _ _ | storeDigits _ | storeRegisters _ | loadRegisters _ =>
    obtain ⟨_, _, done⟩ := bind_ok done
    cases done
    exact .inl rfl
  | _ =>
    cases done
    exact .inl rfl

/-- Such a cycle has found a word, and has left it behind. -/
theorem step_onward (through : machine.step.result = .ok cycle) (onward : cycle.turns = false) :
    machine.counter.toNat ≤ 0xFFE ∧
      machine.counter.toNat + 2 ≤ machine.step.machine.counter.toNat := by
  have way := step_cases machine
  generalize machine.step = outcome at way through ⊢
  cases way with
  | waits _ =>
    cases through
    cases onward
  | unreadable _ _ | faults _ _ _ _ => cases through
  | skips _ read _ =>
    have readable := readable_of_readWord read
    have next : (machine.counter + 2).toNat = machine.counter.toNat + 2 := (toNat_follow readable).1
    refine ⟨readable, ?_⟩
    rw [counted, countCycle_counter, next]
  | @executes _ _ effect _ read _ done =>
    cases through
    have readable := readable_of_readWord read
    obtain ⟨next, skip⟩ := toNat_follow readable
    refine ⟨readable, ?_⟩
    rw [counted, countCycle_counter]
    show machine.counter.toNat + 2 ≤ (effect.flow.follow machine.counter).toNat
    rcases flow_of_onward onward done with flow | flow
    · rw [flow, next]
    · rw [flow, skip]
      omega

/-- So it uses up at least one of the words that were left. -/
theorem step_room (through : machine.step.result = .ok cycle) (onward : cycle.turns = false) :
    machine.step.machine.room < machine.room := by
  obtain ⟨readable, behind⟩ := step_onward through onward
  simp only [room, Memory.size]
  omega

/-! ## Runs -/

/-- The cycles of a run that went through. -/
def cycles (machine : Machine) (operations : List Operation) : List Cycle :=
  (machine.results operations).filterMap Except.toOption

theorem cycles_step_ok (through : machine.step.result = .ok cycle) (rest : List Operation) :
    machine.cycles (.step :: rest) = cycle :: machine.step.machine.cycles rest := by
  rw [cycles, results_step, through]
  rfl

theorem cycles_step_error {fault : Fault} (failed : machine.step.result = .error fault)
    (rest : List Operation) : machine.cycles (.step :: rest) = machine.cycles rest := by
  have same : machine.step.machine = machine := (step_error_frame failed).1
  rw [cycles, results_step, failed, same, List.filterMap_cons_none rfl]
  rfl

theorem cycles_of_ne_step {operation : Operation} (other : operation ≠ .step)
    (rest : List Operation) :
    machine.cycles (operation :: rest) = (machine.apply operation).machine.cycles rest := by
  rw [cycles, results_of_ne_step machine other]
  rfl

/-- The first cycles of a run, if none of them turns, are no more than there is room for. -/
theorem prefix_room (kept : .reset ∉ operations) {window : List Cycle}
    (first : window <+: machine.cycles operations)
    (onward : ∀ cycle ∈ window, cycle.turns = false) : window.length ≤ machine.room := by
  induction operations generalizing machine window with
  | nil =>
    cases List.prefix_nil.mp first
    exact Nat.zero_le _
  | cons operation rest ih =>
    obtain ⟨now, later⟩ := List.ne_and_not_mem_of_not_mem_cons kept
    by_cases stepped : operation = .step
    · subst stepped
      cases result : machine.step.result with
      | error fault =>
        rw [cycles_step_error result] at first
        exact ih later first onward
      | ok cycle =>
        rw [cycles_step_ok result] at first
        cases window with
        | nil => exact Nat.zero_le _
        | cons head tail =>
          obtain ⟨rfl, follows⟩ := List.cons_prefix_cons.mp first
          have closer := step_room result (onward head (by simp))
          have behind := ih later follows fun cycle member =>
            onward cycle (List.mem_cons_of_mem _ member)
          rw [List.length_cons]
          omega
    · rw [cycles_of_ne_step stepped] at first
      have still : (machine.apply operation).machine.room = machine.room := by
        rw [room, apply_counter stepped now.symm, room]
      exact still ▸ ih later first onward

/-- Wherever in a run they stand, cycles of which none turns are no more than there are words. -/
theorem infix_room (kept : .reset ∉ operations) {window : List Cycle}
    (inside : window <:+: machine.cycles operations)
    (onward : ∀ cycle ∈ window, cycle.turns = false) : window.length ≤ 2048 := by
  induction operations generalizing machine with
  | nil =>
    cases List.infix_nil.mp inside
    exact Nat.zero_le _
  | cons operation rest ih =>
    have later := (List.ne_and_not_mem_of_not_mem_cons kept).2
    by_cases stepped : operation = .step
    · subst stepped
      cases result : machine.step.result with
      | error fault =>
        rw [cycles_step_error result] at inside
        exact ih later inside
      | ok cycle =>
        have whole := inside
        rw [cycles_step_ok result] at inside
        rcases List.infix_cons_iff.mp inside with first | inside
        · rw [← cycles_step_ok result] at first
          exact (prefix_room kept first onward).trans machine.room_le
        · exact ih later inside
    · rw [cycles_of_ne_step stepped] at inside
      exact ih later inside

theorem exists_turn (kept : .reset ∉ operations) {window : List Cycle}
    (inside : window <:+: machine.cycles operations) (long : 2049 ≤ window.length) :
    ∃ cycle ∈ window, cycle.turns = true := by
  by_contra none
  have onward : ∀ cycle ∈ window, cycle.turns = false := fun cycle member =>
    Bool.eq_false_iff.mpr fun turns => none ⟨cycle, member, turns⟩
  have short := infix_room kept inside onward
  omega

/-- With the cycles that fault among them, one faults or one turns. -/
theorem exists_error_or_turn (kept : .reset ∉ operations) {window : List (Except Fault Cycle)}
    (inside : window <:+: machine.results operations) (long : 2049 ≤ window.length) :
    (∃ fault, .error fault ∈ window) ∨ ∃ cycle, .ok cycle ∈ window ∧ cycle.turns = true := by
  by_cases failed : ∃ fault, .error fault ∈ window
  · exact .inl failed
  · have through : ∀ result ∈ window, result.toOption.isSome = true := by
      intro result member
      cases result with
      | error fault => exact absurd ⟨fault, member⟩ failed
      | ok cycle => rfl
    have length : (window.filterMap Except.toOption).length = window.length :=
      List.filterMap_length_eq_length.mpr through
    obtain ⟨cycle, member, turns⟩ := exists_turn kept (inside.filterMap _) (length ▸ long)
    obtain ⟨result, member, found⟩ := List.mem_filterMap.mp member
    exact .inr ⟨cycle, ok_of_toOption found ▸ member, turns⟩

end Machine

/-! ## Consoles -/

theorem Recorder.exists_halted_or_turn {console : Console} {patience : Nat} {turns : List Turn}
    {after : Recorder} (kept : ∀ turn ∈ turns, turn.callback.isRestart = false)
    (attended : (Recorder.start console).attend patience turns = some after)
    {window : List (Except Fault Cycle)} (inside : window <:+: after.results)
    (long : 2049 ≤ window.length) :
    after.console.halted = true ∨ ∃ cycle, .ok cycle ∈ window ∧ cycle.turns = true := by
  obtain ⟨tells, leaves, ends⟩ := attend_run kept attended
  have lasts : .reset ∉ after.operations console.rom := fun reset => leaves _ reset
  have way := Machine.exists_error_or_turn lasts (tells.results ▸ inside) long
  rcases way with ⟨fault, failed⟩ | turn
  · exact .inl (ends.halted_iff.mpr (.inr ⟨_, inside.subset failed, rfl⟩))
  · exact .inr turn

/-- However a run goes on short of starting over, with cycles, ticks, keys and programs in any
order: of 2049 cycles that go through, one after another, one has jumped, called, returned or waited
for a key; and of any 2049 cycles one has, or has faulted. Whatever a console is called for short of
a restart, it is halted, or of any 2049 cycles one after another one has. -/
theorem Machine.progress_bounded :
    (∀ (machine : Machine) (operations : List Operation), .reset ∉ operations →
      (∀ window : List Cycle, window <:+: machine.cycles operations → 2049 ≤ window.length →
        ∃ cycle ∈ window, cycle.turns = true) ∧
      ∀ window : List (Except Fault Cycle), window <:+: machine.results operations →
        2049 ≤ window.length →
        (∃ fault, .error fault ∈ window) ∨ ∃ cycle, .ok cycle ∈ window ∧ cycle.turns = true) ∧
    ∀ (console : Console) (patience : Nat) (turns : List Turn) (after : Recorder),
      (∀ turn ∈ turns, turn.callback.isRestart = false) →
      (Recorder.start console).attend patience turns = some after →
      ∀ window : List (Except Fault Cycle), window <:+: after.results → 2049 ≤ window.length →
        after.console.halted = true ∨ ∃ cycle, .ok cycle ∈ window ∧ cycle.turns = true := by
  refine ⟨fun machine operations kept => ⟨fun window => ?through, fun window => ?all⟩, ?consoles⟩
  case through => exact exists_turn kept
  case all => exact exists_error_or_turn kept
  case consoles =>
    exact fun console patience turns after kept attended window =>
      Recorder.exists_halted_or_turn kept attended

/-! ## A program that jumps in place -/

theorem Machine.Spins.length_cycles {machine : Machine} (spins : machine.Spins) (n : Nat) :
    (machine.cycles (List.replicate n .step)).length = n := by
  induction n generalizing machine with
  | zero => rfl
  | succ n ih =>
    obtain ⟨result, after⟩ := spins.step
    rw [List.replicate_succ, cycles_step_ok result, List.length_cons, ih after]

/-- Each press of the space bar runs a cycle of a machine that jumps in place. -/
theorem Recorder.attend_of_spins (recorder : Recorder) (spins : recorder.console.machine.Spins)
    (byHand : recorder.console.stepThrough = true) (running : recorder.console.halted = false)
    {press : Turn} (space : press.callback.isSpace = true) (n : Nat) :
    ∃ after, recorder.attend 0 (List.replicate n press) = some after ∧
      after.results.length = recorder.results.length + n := by
  induction n generalizing recorder with
  | zero => exact ⟨recorder, rfl, rfl⟩
  | succ n ih =>
    have handled := Console.handles_iff.mpr ⟨space, byHand, running⟩
    have polled : recorder.poll.console.machine.Spins := spins.applyKeys _
    obtain ⟨next, still⟩ := Console.runCycle_of_spins polled
    have stays : recorder.poll.runCycle.console.stepThrough = true :=
      (Console.runCycle_keeps recorder.poll.console).stepThrough.trans byHand
    obtain ⟨later, attended, length⟩ := ih recorder.poll.runCycle next stays (still.trans running)
    refine ⟨later, ?_, ?_⟩
    · rw [List.replicate_succ, attend, take_of_handled handled, Option.bind_some, attended]
    · rw [length, results_runCycle, results_poll, List.length_append, List.length_singleton]
      omega

/-- A console that is driven by hand, with a program that jumps in place. -/
def Console.jumpingByHand : Console :=
  Settings.boot ⟨500, 1, [0x12, 0x00], true⟩ (.constant 0)

/-- It goes on forever, by its machine or by hand, and so it has jumped. -/
theorem Console.jumpingByHand_progress :
    (∃ cycle ∈ jumpingByHand.machine.cycles (List.replicate 2049 .step), cycle.turns = true) ∧
    ∃ after, (Recorder.start jumpingByHand).attend 0 (List.replicate 2049 spaceDown) = some after ∧
      (after.console.halted = true ∨ ∃ cycle, .ok cycle ∈ after.results ∧ cycle.turns = true) := by
  have spins : jumpingByHand.machine.Spins := by
    refine ⟨by decide +kernel, 0x1200, Machine.ok_of_toOption ?_, ?_⟩ <;> decide +kernel
  have running : jumpingByHand.halted = false := by decide +kernel
  obtain ⟨machines, consoles⟩ := Machine.progress_bounded
  have kept : .reset ∉ List.replicate 2049 Operation.step := fun member =>
    nomatch List.eq_of_mem_replicate member
  obtain ⟨through, _⟩ := machines jumpingByHand.machine (List.replicate 2049 .step) kept
  have space : spaceDown.callback.isSpace = true := rfl
  obtain ⟨after, attended, length⟩ :=
    Recorder.attend_of_spins (Recorder.start jumpingByHand) spins rfl running space 2049
  have presses : ∀ turn ∈ List.replicate 2049 spaceDown, turn.callback.isRestart = false := by
    intro turn member
    rw [List.eq_of_mem_replicate member]
    rfl
  refine ⟨through _ List.infix_rfl (spins.length_cycles 2049).ge, after, attended, ?_⟩
  exact consoles jumpingByHand 0 _ after presses attended after.results List.infix_rfl (by omega)

end Chip8
