import Chip8.Proofs.Bounds
import Mathlib.Data.List.Basic

/-!
# The moments of a run

A run taken apart into its moments: each operation together with the machine that it is performed
on. What a run answers, what it reports and how often something happens in it are read off its
moments one after another, so a fact about one operation becomes a fact about the whole run.
-/
namespace Chip8

/-- An operation and the machine that it is performed on. -/
structure Moment where
  before : Machine
  operation : Operation

namespace Moment

def outcome (moment : Moment) : Outcome (Except Fault Answer) :=
  moment.before.apply moment.operation

def after (moment : Moment) : Machine :=
  moment.outcome.machine

/-- The instruction that the operation executes, if it is a cycle that executes one. -/
def executed? (moment : Moment) : Option Instruction :=
  match moment.outcome.result with
  | .ok (.cycle (.executed instruction)) => some instruction
  | _ => none

theorem executed?_step (machine : Machine) :
    (Moment.mk machine .step).executed? =
      match machine.step.result with
      | .ok (.executed instruction) => some instruction
      | _ => none := by
  cases done : machine.step.result with
  | error fault => simp [executed?, outcome, Machine.apply, done, Except.map]
  | ok cycle => cases cycle <;> simp [executed?, outcome, Machine.apply, done, Except.map]

/-- Only cycles execute instructions. -/
theorem executed?_of_ne_step {machine : Machine} {operation : Operation}
    (other : operation ≠ .step) : (Moment.mk machine operation).executed? = none := by
  cases operation with
  | step => exact absurd rfl other
  | load program =>
    cases done : (machine.load program).result <;>
      simp [executed?, outcome, Machine.apply, done, Except.map]
  | tick | input _ | reset => simp [executed?, outcome, Machine.apply]

theorem executed?_eq_some_iff {moment : Moment} {instruction : Instruction} :
    moment.executed? = some instruction ↔
      moment.operation = .step ∧ moment.before.step.result = .ok (.executed instruction) := by
  obtain ⟨machine, operation⟩ := moment
  by_cases stepped : operation = .step
  · subst stepped
    rw [executed?_step]
    cases machine.step.result with
    | error fault => simp
    | ok cycle => cases cycle <;> simp
  · simp [executed?_of_ne_step stepped, stepped]

/-- What comes of the cycle, if the operation is one. -/
def result? (moment : Moment) : Option (Except Fault Cycle) :=
  match moment.operation with
  | .step => some moment.before.step.result
  | _ => none

theorem result?_of_ne_step {machine : Machine} {operation : Operation}
    (other : operation ≠ .step) : (Moment.mk machine operation).result? = none := by
  cases operation with
  | step => exact absurd rfl other
  | _ => rfl

end Moment

namespace Machine

def moments (machine : Machine) : List Operation → List Moment
  | [] => []
  | operation :: rest => ⟨machine, operation⟩ :: (machine.apply operation).machine.moments rest

variable (machine : Machine)

@[simp] theorem moments_nil : machine.moments [] = [] := rfl

@[simp] theorem moments_cons (operation : Operation) (rest : List Operation) :
    machine.moments (operation :: rest) =
      ⟨machine, operation⟩ :: (machine.apply operation).machine.moments rest := rfl

@[simp] theorem run_cons (operation : Operation) (rest : List Operation) :
    machine.run (operation :: rest) = (machine.apply operation).machine.run rest := rfl

theorem moments_append (first second : List Operation) :
    machine.moments (first ++ second) =
      machine.moments first ++ (machine.run first).moments second := by
  induction first generalizing machine with
  | nil => rfl
  | cons operation rest ih =>
    simp only [List.cons_append, moments_cons, run_cons, ih]

/-- The outcomes of a run are those of its moments. -/
theorem outcomes_eq_map (operations : List Operation) :
    machine.outcomes operations = (machine.moments operations).map Moment.outcome := by
  induction operations generalizing machine with
  | nil => rfl
  | cons operation rest ih =>
    rw [moments_cons, List.map_cons, ← ih]
    rfl

/-- What a run reports is what its moments report. -/
theorem history_eq_flatMap (operations : List Operation) :
    machine.history operations =
      (machine.moments operations).flatMap fun moment => moment.outcome.events := by
  rw [history, outcomes_eq_map, List.flatMap_map]

theorem history_append (first second : List Operation) :
    machine.history (first ++ second) =
      machine.history first ++ (machine.run first).history second := by
  simp only [history_eq_flatMap, moments_append, List.flatMap_append]

/-- An observation of single events that comes to one of moments in each of them comes to it in
every run. -/
theorem history_filterMap {α : Type} {event : Event → Option α} {view : Moment → Option α}
    (each : ∀ moment : Moment, moment.outcome.events.filterMap event = (view moment).toList)
    (operations : List Operation) :
    (machine.history operations).filterMap event = (machine.moments operations).filterMap view := by
  rw [history_eq_flatMap, List.filterMap_flatMap, List.filterMap_eq_flatMap_toList view]
  simp only [each]

theorem filterMap_moments_cons {α : Type} (view : Moment → Option α) (operation : Operation)
    (rest : List Operation) :
    (machine.moments (operation :: rest)).filterMap view =
      (view ⟨machine, operation⟩).toList ++
        ((machine.apply operation).machine.moments rest).filterMap view := by
  rw [moments_cons]
  cases found : view ⟨machine, operation⟩ <;> simp [found]

/-! ## The cycles of a run -/

def results (operations : List Operation) : List (Except Fault Cycle) :=
  (machine.moments operations).filterMap Moment.result?

@[simp] theorem results_nil : machine.results [] = [] := rfl

@[simp] theorem results_step (rest : List Operation) :
    machine.results (.step :: rest) =
      machine.step.result :: machine.step.machine.results rest := rfl

theorem results_of_ne_step {operation : Operation} (other : operation ≠ .step)
    (rest : List Operation) : machine.results (operation :: rest) =
      (machine.apply operation).machine.results rest := by
  rw [results, moments_cons, List.filterMap_cons_none (Moment.result?_of_ne_step other)]
  rfl

theorem results_append (first second : List Operation) :
    machine.results (first ++ second) =
      machine.results first ++ (machine.run first).results second := by
  simp only [results, moments_append, List.filterMap_append]

end Machine
end Chip8
