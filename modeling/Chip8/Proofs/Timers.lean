import Chip8.Proofs.Bounds

/-!
# The schedule of the timers

A metered machine is a machine that also counts how often its timers have counted, and on whose
behalf. The divider and the number of ticks that cycles have brought about are functions of the
number of cycles that did not fault since the machine started over, whatever happened in between;
and the delay timer is what it was last set to less the ticks since, as long as that is not below
zero.
-/
namespace Chip8

/-- A cycle that did not fault. -/
def Outcome.completes (outcome : Outcome (Except Fault Answer)) : Bool :=
  match outcome.result with
  | .ok (.cycle _) => true
  | _ => false

/-- A cycle that executed an instruction that sets the delay timer. -/
def Outcome.setsDelay (outcome : Outcome (Except Fault Answer)) : Bool :=
  match outcome.result with
  | .ok (.cycle (.executed (.setDelay _))) => true
  | _ => false

/-- A machine and the ticks of its timers. -/
structure Metered where
  machine : Machine
  /-- The ticks that cycles brought about. -/
  driven : Nat
  /-- The ticks that were asked for from outside. -/
  asked : Nat

namespace Metered

/-! ## Counting the ticks -/

def ticks (metered : Metered) : Nat :=
  metered.driven + metered.asked

/-- A tick that a cycle brings about. -/
def drive (metered : Metered) : Metered :=
  { metered with machine := metered.machine.tick.1, driven := metered.driven + 1 }

/-- A tick that is asked for. -/
def ask (metered : Metered) : Metered :=
  { metered with machine := metered.machine.tick.1, asked := metered.asked + 1 }

def countCycle (metered : Metered) : Metered :=
  let machine := metered.machine
  if machine.divider - 1 = 0 then
    { metered with machine := { machine with divider := machine.cyclesPerTick } }.drive
  else { metered with machine := { machine with divider := machine.divider - 1 } }

def step (metered : Metered) : Metered :=
  let tried := { metered with machine := metered.machine.attempt.machine }
  match metered.machine.attempt.result with
  | .error _ => tried
  | .ok _ => tried.countCycle

def act (metered : Metered) : Operation → Metered
  | .step => metered.step
  | .tick => metered.ask
  | operation => { metered with machine := (metered.machine.apply operation).machine }

def run (metered : Metered) (operations : List Operation) : Metered :=
  operations.foldl act metered

def powerOn (rate : UInt32) (random : RandomSource) : Metered :=
  ⟨.powerOn rate random, 0, 0⟩

variable {metered : Metered} {operation : Operation}

theorem run_append (metered : Metered) (first second : List Operation) :
    metered.run (first ++ second) = (metered.run first).run second :=
  List.foldl_append

@[simp] theorem run_nil (metered : Metered) : metered.run [] = metered := rfl

@[simp] theorem run_cons (metered : Metered) (operation : Operation) (rest : List Operation) :
    metered.run (operation :: rest) = (metered.act operation).run rest := rfl

theorem countCycle_machine (metered : Metered) :
    metered.countCycle.machine = metered.machine.countCycle.1 := by
  unfold countCycle Machine.countCycle
  by_cases last : metered.machine.divider - 1 = 0
  · simp only [last, ↓reduceIte, drive]
  · simp only [last, ↓reduceIte]

theorem step_of_error {fault : Fault} (failed : metered.machine.attempt.result = .error fault) :
    metered.step = { metered with machine := metered.machine.attempt.machine } := by
  simp only [step, failed]

theorem step_of_ok {cycle : Cycle} (done : metered.machine.attempt.result = .ok cycle) :
    metered.step = countCycle { metered with machine := metered.machine.attempt.machine } := by
  simp only [step, done]

theorem step_machine (metered : Metered) : metered.step.machine = metered.machine.step.machine := by
  cases done : metered.machine.attempt.result with
  | error fault => rw [step_of_error done, Machine.step_of_error done]
  | ok cycle =>
    rw [step_of_ok done, countCycle_machine, Machine.step_of_ok done]
    rfl

/-- Without the counts it is the machine. -/
theorem act_machine (metered : Metered) (operation : Operation) :
    (metered.act operation).machine = (metered.machine.apply operation).machine := by
  cases operation with
  | step => exact step_machine metered
  | load _ | tick | input _ | reset => rfl

theorem run_machine (metered : Metered) (operations : List Operation) :
    (metered.run operations).machine = metered.machine.run operations := by
  induction operations generalizing metered with
  | nil => rfl
  | cons operation rest ih =>
    rw [run_cons, ih, act_machine]
    rfl

/-! ## The divider -/

/-- The divider and the ticks of cycles, after as many cycles since the divider was full: `before`
is the number of ticks then. -/
structure OnSchedule (metered : Metered) (cycles before : Nat) : Prop where
  divider : metered.machine.divider =
    metered.machine.cyclesPerTick - cycles % metered.machine.cyclesPerTick
  driven : metered.driven = before + cycles / metered.machine.cyclesPerTick

/-- A count goes on to the next multiple of a period or falls short of it. -/
theorem succ_div_mod {period : Nat} (positive : 0 < period) (n : Nat) :
    n % period + 1 = period ∧ (n + 1) % period = 0 ∧ (n + 1) / period = n / period + 1 ∨
      n % period + 1 < period ∧ (n + 1) % period = n % period + 1 ∧
        (n + 1) / period = n / period := by
  have whole := Nat.div_add_mod n period
  have small := Nat.mod_lt n positive
  by_cases last : n % period + 1 = period
  · have multiple : n + 1 = period * (n / period + 1) := by
      rw [Nat.mul_add_one]
      omega
    refine .inl ⟨last, ?_, ?_⟩
    · rw [multiple, Nat.mul_mod_right]
    · rw [multiple, Nat.mul_div_cancel_left _ positive]
  · have less : n % period + 1 < period := by omega
    have shifted : n + 1 = period * (n / period) + (n % period + 1) := by omega
    refine .inr ⟨less, ?_, ?_⟩
    · rw [shifted, Nat.mul_add_mod, Nat.mod_eq_of_lt less]
    · rw [shifted, Nat.mul_add_div positive, Nat.div_eq_of_lt less, Nat.add_zero]

/-- Counting a cycle keeps the schedule. -/
theorem OnSchedule.countCycle {cycles before : Nat} (schedule : metered.OnSchedule cycles before) :
    metered.countCycle.OnSchedule (cycles + 1) before := by
  obtain ⟨divider, driven⟩ := schedule
  have positive := metered.machine.cyclesPerTick_pos
  unfold Metered.countCycle
  rcases succ_div_mod positive cycles with ⟨last, mod, div⟩ | ⟨less, mod, div⟩
  · have empty : metered.machine.divider - 1 = 0 := by omega
    rw [if_pos empty]
    constructor
    · show metered.machine.cyclesPerTick =
        metered.machine.cyclesPerTick - (cycles + 1) % metered.machine.cyclesPerTick
      rw [mod, Nat.sub_zero]
    · show metered.driven + 1 = before + (cycles + 1) / metered.machine.cyclesPerTick
      rw [div, driven, Nat.add_assoc]
  · have some : metered.machine.divider - 1 ≠ 0 := by omega
    rw [if_neg some]
    constructor
    · show metered.machine.divider - 1 =
        metered.machine.cyclesPerTick - (cycles + 1) % metered.machine.cyclesPerTick
      omega
    · show metered.driven = before + (cycles + 1) / metered.machine.cyclesPerTick
      rw [div, driven]

/-- Changes elsewhere do not touch the schedule. -/
theorem OnSchedule.elsewhere {after : Metered} {cycles before : Nat}
    (schedule : metered.OnSchedule cycles before)
    (divider : after.machine.divider = metered.machine.divider)
    (rate : after.machine.rate = metered.machine.rate) (driven : after.driven = metered.driven) :
    after.OnSchedule cycles before := by
  have period : after.machine.cyclesPerTick = metered.machine.cyclesPerTick :=
    congrArg Timing.cyclesPerTick rate
  constructor
  · rw [divider, period]
    exact schedule.divider
  · rw [driven, period]
    exact schedule.driven

/-- A cycle keeps the schedule, and counts if it does not fault. -/
theorem OnSchedule.step {cycles before : Nat} (schedule : metered.OnSchedule cycles before) :
    metered.step.OnSchedule
      (cycles + if (metered.machine.apply .step).completes then 1 else 0) before := by
  obtain ⟨divider, rate⟩ := Machine.attempt_frame metered.machine
  have tried :
      OnSchedule { metered with machine := metered.machine.attempt.machine } cycles before :=
    schedule.elsewhere divider rate rfl
  cases done : metered.machine.attempt.result with
  | error fault =>
    have faults : (metered.machine.apply .step).completes = false := by
      simp [Outcome.completes, Machine.apply, Machine.step_of_error done, done, Except.map]
    rw [step_of_error done, faults]
    exact tried
  | ok cycle =>
    have completes : (metered.machine.apply .step).completes = true := by
      simp [Outcome.completes, Machine.apply, Machine.step_of_ok done, Machine.counted, Except.map]
    rw [step_of_ok done, completes]
    exact tried.countCycle

theorem completes_load (machine : Machine) (program : List UInt8) :
    (machine.apply (.load program)).completes = false := by
  cases done : (machine.load program).result <;>
    simp [Outcome.completes, Machine.apply, done, Except.map]

/-- Every operation but starting over keeps the schedule, and only cycles count. -/
theorem OnSchedule.act {cycles before : Nat} (schedule : metered.OnSchedule cycles before)
    (kept : operation ≠ .reset) :
    (metered.act operation).OnSchedule
      (cycles + if (metered.machine.apply operation).completes then 1 else 0) before := by
  cases operation with
  | step => exact schedule.step
  | tick => exact schedule.elsewhere rfl rfl rfl
  | load program =>
    obtain ⟨memory, same⟩ := Machine.load_eq metered.machine program
    have divider := congrArg Machine.divider same
    have rate := congrArg Machine.rate same
    rw [completes_load]
    exact schedule.elsewhere divider rate rfl
  | input keys =>
    obtain ⟨registers, keyWait, _, same⟩ := Machine.applyKeys_eq metered.machine keys
    have divider := congrArg Machine.divider same
    have rate := congrArg Machine.rate same
    exact schedule.elsewhere divider rate rfl
  | reset => exact absurd rfl kept

theorem OnSchedule.run {cycles before : Nat} (schedule : metered.OnSchedule cycles before)
    (operations : List Operation) (kept : .reset ∉ operations) :
    (metered.run operations).OnSchedule
      (cycles + (metered.machine.outcomes operations).countP Outcome.completes) before := by
  induction operations generalizing metered cycles with
  | nil => exact schedule
  | cons operation rest ih =>
    have other : operation ≠ .reset := fun reset => kept (by simp [reset])
    have later := ih (schedule.act other) (fun member => kept (List.mem_cons_of_mem _ member))
    rw [act_machine, Nat.add_assoc, Nat.add_comm (ite _ _ _)] at later
    rwa [run_cons, Machine.outcomes, List.countP_cons]

/-! ## The delay timer -/

/-- The delay timer has counted from a value down by one at each tick since, but not below zero. -/
def CountsFrom (value : Nat) (before after : Metered) : Prop :=
  ∃ ticks, after.ticks = before.ticks + ticks ∧ after.machine.delay.toNat = value - ticks

theorem CountsFrom.trans {value : Nat} {start before after : Metered}
    (first : CountsFrom value start before)
    (second : CountsFrom before.machine.delay.toNat before after) :
    CountsFrom value start after := by
  obtain ⟨some, count, left⟩ := first
  obtain ⟨more, further, rest⟩ := second
  refine ⟨some + more, by omega, ?_⟩
  rw [rest, left, Nat.sub_sub]

/-- Nothing counts where neither the timer nor the ticks change. -/
theorem CountsFrom.still {before after : Metered}
    (delay : after.machine.delay = before.machine.delay) (ticks : after.ticks = before.ticks) :
    CountsFrom before.machine.delay.toNat before after :=
  ⟨0, ticks, congrArg UInt8.toNat delay⟩

theorem toNat_countDown (timer : UInt8) : (Machine.countDown timer).toNat = timer.toNat - 1 := by
  unfold Machine.countDown
  split
  case isTrue zero => simp [zero]
  case isFalse some =>
    have positive : 0 < timer.toNat := Nat.pos_of_ne_zero fun zero =>
      some (UInt8.toNat_inj.mp zero)
    exact UInt8.toNat_sub_of_le _ _ (UInt8.le_iff_toNat_le.mpr positive)

theorem ask_countsFrom (metered : Metered) :
    CountsFrom metered.machine.delay.toNat metered metered.ask :=
  ⟨1, rfl, toNat_countDown _⟩

theorem drive_countsFrom (metered : Metered) :
    CountsFrom metered.machine.delay.toNat metered metered.drive := by
  refine ⟨1, ?_, toNat_countDown _⟩
  simp only [ticks, drive]
  omega

theorem countCycle_countsFrom (metered : Metered) :
    CountsFrom metered.machine.delay.toNat metered metered.countCycle := by
  unfold Metered.countCycle
  dsimp only
  split
  · exact drive_countsFrom _
  · exact .still rfl rfl

/-- An instruction leaves the delay timer as it is, unless it is the one that sets it. -/
theorem attempt_delay (machine : Machine)
    (kept : ∀ x, machine.attempt.result ≠ .ok (.executed (.setDelay x))) :
    machine.attempt.machine.delay = machine.delay := by
  rcases machine.attempt_cases with ⟨instruction, effect, done, executed, after⟩ | ⟨_, _, after⟩
  · have other : instruction.part? ≠ some .delay := by
      intro written
      cases instruction with
      | setDelay x => exact kept x executed
      | _ => cases written
    rw [after]
    exact Machine.execute_same done .delay other
  · rw [after]

theorem attempt_setDelay {machine : Machine} {x : UInt8}
    (set : machine.attempt.result = .ok (.executed (.setDelay x))) :
    machine.attempt.machine.delay = machine.reg x := by
  rcases machine.attempt_cases with ⟨instruction, effect, done, executed, after⟩ | ⟨none, _⟩
  · cases executed.symm.trans set
    cases done
    rw [after]
    rfl
  · exact absurd set (none _)

theorem setsDelay_step {machine : Machine} {x : UInt8}
    (set : machine.attempt.result = .ok (.executed (.setDelay x))) :
    (machine.apply .step).setsDelay = true := by
  simp [Outcome.setsDelay, Machine.apply, Machine.step_result, set, Except.map]

/-- A cycle that does not set the delay timer counts it down by the tick it brings about, if it
brings one about. -/
theorem step_countsFrom (kept : (metered.machine.apply .step).setsDelay = false) :
    CountsFrom metered.machine.delay.toNat metered metered.step := by
  have same := attempt_delay metered.machine fun x set =>
    Bool.eq_false_iff.mp kept (setsDelay_step set)
  have tried : CountsFrom metered.machine.delay.toNat metered
      { metered with machine := metered.machine.attempt.machine } := .still same rfl
  cases done : metered.machine.attempt.result with
  | error fault =>
    rw [step_of_error done]
    exact tried
  | ok cycle =>
    rw [step_of_ok done]
    exact tried.trans (countCycle_countsFrom _)

/-- A cycle that sets the delay timer may already count it down. -/
theorem step_setDelay {x : UInt8}
    (set : metered.machine.attempt.result = .ok (.executed (.setDelay x))) :
    CountsFrom (metered.machine.reg x).toNat metered metered.step := by
  have tried : CountsFrom (metered.machine.reg x).toNat metered
      { metered with machine := metered.machine.attempt.machine } :=
    ⟨0, rfl, congrArg UInt8.toNat (attempt_setDelay set)⟩
  rw [step_of_ok set]
  exact tried.trans (countCycle_countsFrom _)

theorem act_countsFrom (kept : operation ≠ .reset)
    (unset : (metered.machine.apply operation).setsDelay = false) :
    CountsFrom metered.machine.delay.toNat metered (metered.act operation) := by
  cases operation with
  | step => exact step_countsFrom unset
  | tick => exact ask_countsFrom metered
  | load program =>
    obtain ⟨memory, same⟩ := Machine.load_eq metered.machine program
    have delay := congrArg Machine.delay same
    exact .still delay rfl
  | input keys =>
    obtain ⟨registers, keyWait, _, same⟩ := Machine.applyKeys_eq metered.machine keys
    have delay := congrArg Machine.delay same
    exact .still delay rfl
  | reset => exact absurd rfl kept

/-- A part of a run in which the machine does not start over and the delay timer is not set. -/
structure LeavesDelay (machine : Machine) (part : List Operation) : Prop where
  kept : .reset ∉ part
  unset : ∀ outcome ∈ machine.outcomes part, outcome.setsDelay = false

theorem run_countsFrom (part : List Operation) (leaves : LeavesDelay metered.machine part) :
    CountsFrom metered.machine.delay.toNat metered (metered.run part) := by
  induction part generalizing metered with
  | nil => exact .still rfl rfl
  | cons operation rest ih =>
    obtain ⟨kept, unset⟩ := leaves
    have other : operation ≠ .reset := fun reset => kept (by simp [reset])
    have first := act_countsFrom other (unset _ List.mem_cons_self)
    refine first.trans (ih ⟨fun member => kept (List.mem_cons_of_mem _ member), ?_⟩)
    rw [act_machine]
    exact fun outcome member => unset outcome (List.mem_cons_of_mem _ member)

/-! ## Whole runs -/

/-- A machine that has just been made or has just started over is on schedule. -/
theorem onSchedule_of_fresh (rate : UInt32) (random : RandomSource) {before : List Operation}
    (fresh : before = [] ∨ ∃ earlier, before = earlier ++ [.reset]) :
    ((powerOn rate random).run before).OnSchedule 0 ((powerOn rate random).run before).driven := by
  have full : ((powerOn rate random).run before).machine.divider =
      ((powerOn rate random).run before).machine.cyclesPerTick := by
    rcases fresh with rfl | ⟨earlier, rfl⟩
    · exact Machine.powerOn_divider rate random
    · rw [run_append, run_cons, run_nil, act_machine, Machine.apply_reset, Machine.powerOn_divider]
  constructor
  · rw [full, Nat.zero_mod, Nat.sub_zero]
  · rw [Nat.zero_div, Nat.add_zero]

theorem run_cyclesPerTick (rate : UInt32) (random : RandomSource) (operations : List Operation) :
    ((powerOn rate random).run operations).machine.cyclesPerTick = max 1 (rate.toNat / 60) := by
  rw [run_machine, Machine.cyclesPerTick, Machine.run_rate]
  rfl

/-- Whatever was done to a machine since it was made or last started over, the divider and the ticks
that cycles brought about follow from the number of cycles that did not fault. And over every part
of a run that leaves the delay timer alone, the timer counts down from where it was by the ticks of
that part; also from the value that a cycle has just set, which that cycle may already count. -/
theorem timer_schedule (rate : UInt32) (random : RandomSource) (before since : List Operation)
    (fresh : before = [] ∨ ∃ earlier, before = earlier ++ [.reset]) (kept : .reset ∉ since) :
    ∃ start now cycles period,
      start = (powerOn rate random).run before ∧ now = start.run since ∧
      now.machine = (Machine.powerOn rate random).run (before ++ since) ∧
      cycles = (start.machine.outcomes since).countP Outcome.completes ∧
      period = max 1 (rate.toNat / 60) ∧
      now.machine.divider = period - cycles % period ∧
      now.driven = start.driven + cycles / period ∧
      (∀ part, LeavesDelay now.machine part →
        CountsFrom now.machine.delay.toNat now (now.run part)) ∧
      ∀ x part, now.machine.step.result = .ok (.executed (.setDelay x)) →
        LeavesDelay now.machine.step.machine part →
        CountsFrom (now.machine.reg x).toNat now (now.run (.step :: part)) := by
  have begun := onSchedule_of_fresh rate random fresh
  obtain ⟨divider, driven⟩ := begun.run since kept
  have period := run_cyclesPerTick rate random (before ++ since)
  rw [run_append] at period
  rw [period, Nat.zero_add] at divider driven
  refine ⟨_, _, _, _, rfl, rfl, ?_, rfl, rfl, divider, driven, ?_, ?_⟩
  · rw [run_machine, run_machine, Machine.run_append]
    rfl
  · exact fun part leaves => run_countsFrom part leaves
  · intro x part set leaves
    rw [Machine.step_result] at set
    rw [← step_machine] at leaves
    exact (step_setDelay set).trans (run_countsFrom part leaves)

/-- A program that sets the delay timer to five and then goes round in a circle. -/
def delayOfFive : List UInt8 := [0x60, 0x05, 0xF0, 0x15, 0x12, 0x04]

/-- What this machine comes to: its program is about to set the timer, in the second cycle since it
started over, and with two cycles to a tick three ticks come by the end. -/
theorem delayOfFive_facts :
    ∃ start now : Metered,
      start = (powerOn 120 (.constant 0)).run ([.load delayOfFive, .step] ++ [.reset]) ∧
      now = start.run [.load delayOfFive, .step] ∧
      (start.machine.outcomes [.load delayOfFive, .step]).countP Outcome.completes = 1 ∧
      start.driven = 0 ∧ now.ticks = 0 ∧ (now.machine.reg 0).toNat = 5 ∧
      now.machine.step.result.toOption = some (.executed (.setDelay 0)) ∧
      (∀ outcome ∈ now.machine.step.machine.outcomes [.tick, .step, .step],
        outcome.setsDelay = false) ∧
      (now.run [.step, .tick, .step, .step]).ticks = 3 := by
  refine ⟨_, _, rfl, rfl, ?_⟩
  decide +kernel

theorem delayOfFive_counts :
    ∃ now : Metered, now.machine.divider = 1 ∧ now.driven = 0 ∧
      now.machine.step.result = .ok (.executed (.setDelay 0)) ∧
      (now.run [.step, .tick, .step, .step]).machine.delay.toNat = 2 := by
  obtain ⟨first, last, made, ran, once, idle, unticked, five, set, unset, three⟩ :=
    delayOfFive_facts
  obtain ⟨start, now, cycles, period, begun, since, _, completed, whole, divider, driven, _,
      sets⟩ := timer_schedule 120 (.constant 0) ([.load delayOfFive, .step] ++ [.reset])
      [.load delayOfFive, .step] (.inr ⟨_, rfl⟩) (by decide)
  have same : first = start := made.trans begun.symm
  subst same
  have same : last = now := ran.trans since.symm
  subst same
  have two : period = 2 := by
    rw [whole]
    decide
  rw [completed, once, two] at divider driven
  obtain ⟨ticks, count, left⟩ := sets 0 [.tick, .step, .step] (Machine.ok_of_toOption set)
    ⟨by decide, unset⟩
  refine ⟨last, divider, by omega, Machine.ok_of_toOption set, ?_⟩
  rw [left]
  omega

end Metered
end Chip8
