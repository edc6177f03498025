import Chip8.Proofs.Bare.Requests
import Chip8.Proofs.Mirror
import Chip8.Proofs.Moments
import Chip8.Proofs.Numerals

/-!
# What the devices are called for

The display and diagnostics hear of a run only through the calls that it makes, and the calls follow
from the operations and what they answer: the display starts over with the machine and is given the
screen after each instruction that writes to it, and diagnostics get one message for starting over,
for a program that was put into memory and for a word that was stepped over. No other moment calls
either of them, and the screen never changes in a moment that does not call the display.
-/
namespace Chip8

inductive DisplayCall where
  | startOver
  | draw (screen : Screen)

def Event.displayCall? (event : Event) : Option DisplayCall :=
  if event.isDisplayReset then some .startOver else event.shown?.map .draw

namespace Moment

/-- The call of the display that a moment owes: when it starts over, and after a cycle that executed
`00E0` or `DXYN`, with the screen as it is then. -/
def displayCall? (moment : Moment) : Option DisplayCall :=
  match moment.operation, moment.executed? with
  | .reset, _ => some .startOver
  | _, some .clearScreen => some (.draw moment.after.screen)
  | _, some (.draw _ _ _) => some (.draw moment.after.screen)
  | _, _ => none

/-- The message that a moment owes to diagnostics: when it starts over, when a program was put into
memory, and when a cycle stepped over a word that is no instruction. -/
def message? (moment : Moment) : Option String :=
  match moment.operation, moment.outcome.result with
  | .reset, _ => some "Machine reset"
  | .load program, .ok _ => some ("ROM loaded - " ++ toString program.length ++ " bytes")
  | .step, .ok (.cycle (.decodeFault word)) =>
    some ("Invalid opcode = 0x" ++ String.ofList [Numeral.nibble (word.toNat / 0x1000),
      Numeral.nibble (word.toNat / 0x100), Numeral.nibble (word.toNat / 0x10),
      Numeral.nibble word.toNat])
  | _, _ => none

end Moment

/-- Neither the display nor diagnostics hear of an event. -/
def Event.Uncalled (event : Event) : Prop :=
  event.displayCall? = none ∧ event.message? = none

theorem Event.filterMap_uncalled {events : List Event}
    (uncalled : ∀ event ∈ events, event.Uncalled) :
    events.filterMap displayCall? = [] ∧ events.filterMap message? = [] :=
  ⟨List.filterMap_eq_nil_iff.mpr fun event member => (uncalled event member).1,
    List.filterMap_eq_nil_iff.mpr fun event member => (uncalled event member).2⟩

namespace Machine

variable {machine : Machine}

/-! ## What an operation calls -/

/-- The call that a cycle owes to the display, by its result. -/
theorem displayCall?_step (machine : Machine) :
    (Moment.mk machine .step).displayCall? =
      match machine.step.result with
      | .ok (.executed instruction) =>
        if instruction.draws then some (.draw machine.step.machine.screen) else none
      | _ => none := by
  unfold Moment.displayCall?
  rw [Moment.executed?_step]
  cases machine.step.result with
  | error fault => rfl
  | ok cycle =>
    cases cycle with
    | executed instruction => cases instruction <;> rfl
    | awaitingKey | decodeFault _ => rfl

/-- The message that a cycle owes to diagnostics, by its result. -/
theorem message?_step (machine : Machine) :
    (Moment.mk machine .step).message? =
      match machine.step.result with
      | .ok (.decodeFault word) => (Event.invalidWord word 0).message?
      | _ => none := by
  cases done : machine.step.result with
  | error fault => simp [Moment.message?, Moment.outcome, apply, done, Except.map]
  | ok cycle =>
    cases cycle with
    | decodeFault word =>
      have digits := Numeral.hexUpper_four word.toNat_lt
      simp [Moment.message?, Moment.outcome, apply, done, Except.map, Event.message?, digits]
    | awaitingKey | executed _ => simp [Moment.message?, Moment.outcome, apply, done, Except.map]

/-- An instruction that writes to the screen calls the display, and no other instruction calls a
device. -/
theorem executes_calls {word : UInt16} {instruction : Instruction} {effect : Effect}
    (done : machine.execute instruction = .ok effect) :
    (Event.fetched machine.counter word instruction :: effect.events ++
        (machine.moved effect).presented instruction).filterMap Event.displayCall? =
      (if instruction.draws then [.draw (machine.moved effect).screen] else []) ∧
    (Event.fetched machine.counter word instruction :: effect.events ++
        (machine.moved effect).presented instruction).filterMap Event.message? = [] := by
  have uncalled : ∀ event ∈ Event.fetched machine.counter word instruction :: effect.events,
      event.Uncalled := by
    intro event member
    rcases List.mem_cons.mp member with rfl | member
    · exact ⟨rfl, rfl⟩
    · rcases execute_events done event member with rfl | ⟨x, rfl⟩ | ⟨x, value, rfl⟩ <;>
        exact ⟨rfl, rfl⟩
  obtain ⟨display, messages⟩ := Event.filterMap_uncalled uncalled
  rw [List.filterMap_append, List.filterMap_append, display, messages, presented]
  split
  · exact ⟨rfl, rfl⟩
  · exact ⟨rfl, rfl⟩

/-- Counting a cycle calls neither the display nor diagnostics. -/
theorem counted_calls (cycle : Cycle) (machine : Machine) (events : List Event) :
    (counted cycle machine events).events.filterMap Event.displayCall? =
        events.filterMap Event.displayCall? ∧
      (counted cycle machine events).events.filterMap Event.message? =
        events.filterMap Event.message? := by
  obtain ⟨display, messages⟩ := Event.filterMap_uncalled fun event member => by
    rw [countCycle_events machine event member]
    exact ⟨rfl, rfl⟩
  constructor
  · rw [counted, List.filterMap_append, display, List.append_nil]
  · rw [counted, List.filterMap_append, messages, List.append_nil]

/-- What a cycle calls is what its moment owes. -/
theorem step_calls (machine : Machine) :
    machine.step.events.filterMap Event.displayCall? =
        (Moment.mk machine .step).displayCall?.toList ∧
      machine.step.events.filterMap Event.message? =
        (Moment.mk machine .step).message?.toList := by
  rw [displayCall?_step, message?_step]
  have way := step_cases machine
  generalize machine.step = outcome at way ⊢
  cases way with
  | waits _ | skips _ _ _ =>
    rw [(counted_calls _ _ _).1, (counted_calls _ _ _).2]
    exact ⟨rfl, rfl⟩
  | unreadable _ _ | faults _ _ _ _ => exact ⟨rfl, rfl⟩
  | executes _ _ _ done =>
    rw [(counted_calls _ _ _).1, (counted_calls _ _ _).2, (executes_calls done).1,
      (executes_calls done).2]
    simp only [counted, countCycle_screen]
    split
    · exact ⟨rfl, rfl⟩
    · exact ⟨rfl, rfl⟩

theorem load_calls (machine : Machine) (program : List UInt8) :
    (machine.apply (.load program)).events.filterMap Event.displayCall? =
        (Moment.mk machine (.load program)).displayCall?.toList ∧
      (machine.apply (.load program)).events.filterMap Event.message? =
        (Moment.mk machine (.load program)).message?.toList := by
  cases loaded : machine.memory.load program with
  | error fault =>
    simp [Moment.displayCall?, Moment.message?, Moment.executed?, Moment.outcome, apply, load,
      loaded, Except.map]
  | ok memory =>
    have size : Numeral.decimal program.length = toString program.length := rfl
    simp [Moment.displayCall?, Moment.message?, Moment.executed?, Moment.outcome, apply, load,
      loaded, Except.map, Event.displayCall?, Event.isDisplayReset, Event.shown?, Event.message?,
      size]

/-- What an operation calls is what its moment owes. -/
theorem apply_calls (machine : Machine) (operation : Operation) :
    (machine.apply operation).events.filterMap Event.displayCall? =
        (Moment.mk machine operation).displayCall?.toList ∧
      (machine.apply operation).events.filterMap Event.message? =
        (Moment.mk machine operation).message?.toList := by
  cases operation with
  | load program => exact load_calls machine program
  | step => exact step_calls machine
  | tick =>
    refine Event.filterMap_uncalled fun event member => ?_
    rw [tick_events machine event member]
    exact ⟨rfl, rfl⟩
  | input keys =>
    refine Event.filterMap_uncalled fun event member => ?_
    rcases applyKeys_events machine keys event member with rfl | ⟨key, x, rfl⟩ <;>
      exact ⟨rfl, rfl⟩
  | reset => exact ⟨rfl, rfl⟩

theorem quiet_iff {event : Event} : event.Quiet ↔ event.displayCall? = none := by
  cases event <;> simp [Event.Quiet, Event.displayCall?, Event.isDisplayReset, Event.shown?]

/-- The screen stays as it is in an operation that does not call the display. -/
theorem apply_screen_of_uncalled {operation : Operation}
    (uncalled : (machine.apply operation).events.filterMap Event.displayCall? = []) :
    (machine.apply operation).machine.screen = machine.screen := by
  have quiet : Event.AllQuiet (machine.apply operation).events := fun event member =>
    quiet_iff.mpr (List.filterMap_eq_nil_iff.mp uncalled event member)
  -- a display that showed the screen before shows it still, and shows the screen after as well
  have before : ((Display.ofScale 1).present machine.screen).shown = machine.screen := rfl
  have shown := apply_shown before operation
  rw [Display.follow_quiet quiet] at shown
  exact shown.symm

/-! ## What a run calls -/

theorem history_displayCalls (machine : Machine) (operations : List Operation) :
    (machine.history operations).filterMap Event.displayCall? =
      (machine.moments operations).filterMap Moment.displayCall? :=
  history_filterMap machine (fun moment => (apply_calls moment.before moment.operation).1) operations

theorem history_messages (machine : Machine) (operations : List Operation) :
    (machine.history operations).filterMap Event.message? =
      (machine.moments operations).filterMap Moment.message? :=
  history_filterMap machine (fun moment => (apply_calls moment.before moment.operation).2) operations

end Machine

/-- All calls of a run. The display starts over once when a machine is made; from then on it is
called once for every time the machine starts over and once for every cycle that executes `00E0` or
`DXYN`, with the screen that the cycle leaves, in this order and never else. Diagnostics that listen
from some time on get one message for each later time the machine starts over, for each program that
was put into memory and for each word that was stepped over, in this order and no other. And what
does not call the display does not change the screen. -/
theorem Bare.calls_account (rate : UInt32) (random : RandomSource) (before since : List Request) :
    ∃ start now bare told after heard,
      start = Machine.powerOn rate random ∧ now = start.run (before.map Request.operation) ∧
      reached rate random before = some (bare, told) ∧
      serveAll (bare, told) since = some (after, told ++ heard) ∧
      (told ++ heard).filterMap Event.displayCall? = .startOver ::
        (start.moments ((before ++ since).map Request.operation)).filterMap Moment.displayCall? ∧
      heard.filterMap Event.message? =
        (now.moments (since.map Request.operation)).filterMap Moment.message? ∧
      ∀ operation, (now.apply operation).events.filterMap Event.displayCall? = [] →
        (now.apply operation).machine.screen = now.screen := by
  have bounded := Machine.run_bounded (Machine.powerOn_bounded rate random)
    (before.map Request.operation)
  refine ⟨_, _, _, _, _, _, rfl, rfl, reached_eq rate random before,
    serveAll_ofMachine _ bounded since, ?display, Machine.history_messages _ _,
    fun operation => Machine.apply_screen_of_uncalled⟩
  case display =>
    rw [List.map_append, List.append_assoc, ← Machine.history_append, List.filterMap_append,
      Machine.history_displayCalls]
    rfl

end Chip8
