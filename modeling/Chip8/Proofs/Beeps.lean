import Chip8.Proofs.Moments
import Chip8.Proofs.Timers

/-!
# Accounting for beeps

A beep is a tick that finds the sound timer at one. Between two settings of the timer the ticks find
it falling by one each, so a setting brings about a beep at the tick that is as many ticks after it
as its value says, if that tick comes before the next setting or a new start, and no other. So there
are never more beeps than settings to a value other than zero.
-/
namespace Chip8

namespace Moment

/-- The value that an executed `FX18` gives to the sound timer. -/
def soundSet? (moment : Moment) : Option UInt8 :=
  match moment.executed? with
  | some (.setSound x) => some (moment.before.reg x)
  | _ => none

/-- The sound timer before the tick of a moment, which is after what its instruction sets it to. -/
def sound (moment : Moment) : UInt8 :=
  moment.soundSet?.getD moment.before.sound

/-- The sound timer as the tick of a moment finds it, if the moment has one: a tick that is asked
for, or one that is due at a cycle that does not fault. -/
def tick? (moment : Moment) : Option UInt8 :=
  match moment.operation with
  | .tick => some moment.sound
  | .step =>
    if moment.outcome.completes = true ∧ moment.before.divider - 1 = 0 then some moment.sound
    else none
  | _ => none

def beeps (moment : Moment) : Nat :=
  moment.outcome.events.countP Event.isBeep

end Moment

namespace Machine

def beeps (machine : Machine) (operations : List Operation) : Nat :=
  (machine.history operations).countP Event.isBeep

/-- The sound timer as each tick of a run finds it. -/
def ticks (machine : Machine) (operations : List Operation) : List UInt8 :=
  (machine.moments operations).filterMap Moment.tick?

def beepsAtTicks (machine : Machine) (operations : List Operation) : List Nat :=
  ((machine.moments operations).filter fun moment => moment.tick?.isSome).map Moment.beeps

def soundsSet (machine : Machine) (operations : List Operation) : List UInt8 :=
  (machine.moments operations).filterMap Moment.soundSet?

variable {machine : Machine}

/-! ## One moment -/

theorem countP_isBeep_eq_zero {events : List Event}
    (silent : ∀ event ∈ events, event.isBeep = false) : events.countP Event.isBeep = 0 :=
  List.countP_eq_zero.mpr fun event member => Bool.eq_false_iff.mp (silent event member)

theorem tick_beeps (machine : Machine) :
    machine.tick.2.countP Event.isBeep = if machine.sound = 1 then 1 else 0 := by
  unfold tick
  dsimp only
  split
  · rfl
  · rfl

/-- The sound timer as the tick finds it that is due when a cycle is counted, if one is. -/
def due? (divider : Nat) (sound : UInt8) : Option UInt8 :=
  if divider - 1 = 0 then some sound else none

/-- A cycle whose own work asks for no beep asks for one when it is counted and its tick finds the
sound timer at one; and its tick is all that counts the timer down. -/
theorem counted_sound (cycle : Cycle) (machine : Machine) {events : List Event}
    (silent : ∀ event ∈ events, event.isBeep = false) :
    (counted cycle machine events).events.countP Event.isBeep =
        (if due? machine.divider machine.sound = some 1 then 1 else 0) ∧
      (counted cycle machine events).machine.sound =
        if (due? machine.divider machine.sound).isSome then countDown machine.sound
        else machine.sound := by
  simp only [counted, List.countP_append, countP_isBeep_eq_zero silent, Nat.zero_add]
  unfold countCycle due?
  by_cases last : machine.divider - 1 = 0
  · rw [if_pos last, if_pos last]
    refine ⟨(tick_beeps _).trans ?_, rfl⟩
    simp
  · rw [if_neg last, if_neg last]
    simp

/-- Before it is counted a cycle that executes an instruction sets the sound timer or leaves it. -/
theorem execute_sound {instruction : Instruction} {effect : Effect}
    (done : machine.execute instruction = .ok effect) :
    effect.machine.sound =
      match instruction with
      | .setSound x => machine.reg x
      | _ => machine.sound := by
  by_cases other : instruction.part? = some .sound
  · cases instruction with
    | setSound x =>
      cases done
      rfl
    | _ => cases other
  · have same : effect.machine.sound = machine.sound := execute_same done .sound other
    cases instruction with
    | setSound x => exact absurd rfl other
    | _ => exact same

/-- An executed instruction asks for no beep by itself. -/
theorem executes_silent (word : UInt16) {instruction : Instruction} {effect : Effect}
    (done : machine.execute instruction = .ok effect) :
    ∀ event ∈ Event.fetched machine.counter word instruction :: effect.events ++
      (machine.moved effect).presented instruction, event.isBeep = false := by
  intro event member
  rcases List.mem_append.mp member with early | shown
  · rcases List.mem_cons.mp early with rfl | reported
    · rfl
    · rcases execute_events done event reported with rfl | ⟨x, rfl⟩ | ⟨x, value, rfl⟩ <;> rfl
  · unfold presented at shown
    split at shown
    · rw [List.mem_singleton.mp shown]
      rfl
    · cases shown

theorem sound_step (machine : Machine) :
    (Moment.mk machine .step).sound =
      match machine.step.result with
      | .ok (.executed (.setSound x)) => machine.reg x
      | _ => machine.sound := by
  unfold Moment.sound Moment.soundSet?
  rw [Moment.executed?_step]
  cases machine.step.result with
  | error fault => rfl
  | ok cycle =>
    cases cycle with
    | executed instruction => cases instruction <;> rfl
    | awaitingKey | decodeFault _ => rfl

theorem tick?_step (machine : Machine) :
    (Moment.mk machine .step).tick? =
      match machine.step.result with
      | .ok _ => due? machine.divider (Moment.mk machine .step).sound
      | .error _ => none := by
  cases done : machine.step.result with
  | error fault =>
    simp [Moment.tick?, Moment.outcome, Outcome.completes, apply, done, Except.map]
  | ok cycle =>
    simp [Moment.tick?, Moment.outcome, Outcome.completes, apply, done, Except.map, due?]

/-- When a cycle beeps, and what it does to the sound timer. -/
theorem step_sound (machine : Machine) :
    machine.step.events.countP Event.isBeep =
        (if (Moment.mk machine .step).tick? = some 1 then 1 else 0) ∧
      machine.step.machine.sound =
        if (Moment.mk machine .step).tick?.isSome then countDown (Moment.mk machine .step).sound
        else (Moment.mk machine .step).sound := by
  rw [tick?_step, sound_step]
  have way := step_cases machine
  generalize machine.step = outcome at way ⊢
  cases way with
  | waits _ => exact counted_sound _ machine fun _ member => nomatch member
  | unreadable _ _ => exact ⟨rfl, rfl⟩
  | skips _ _ _ =>
    refine counted_sound _ { machine with counter := machine.counter + 2 } fun event member => ?_
    rw [List.mem_singleton.mp member]
    rfl
  | faults _ _ _ _ => exact ⟨rfl, rfl⟩
  | executes free read decoded done =>
    rename_i word instruction effect
    have found := counted_sound (.executed instruction) (machine.moved effect)
      (executes_silent word done)
    have divider : (machine.moved effect).divider = machine.divider := (execute_frame done).2.1
    have sound : (machine.moved effect).sound = effect.machine.sound := rfl
    rw [divider, sound, execute_sound done] at found
    cases instruction <;> exact found

end Machine

/-! ## Any moment -/

namespace Moment

variable {moment : Moment}

theorem sound_of_ne_step (machine : Machine) (operation : Operation) (other : operation ≠ .step) :
    (Moment.mk machine operation).sound = machine.sound := by
  rw [sound, soundSet?, executed?_of_ne_step other]
  rfl

/-- A moment beeps once if it has a tick that finds the sound timer at one, and never else. -/
theorem beeps_eq (moment : Moment) : moment.beeps = if moment.tick? = some 1 then 1 else 0 := by
  obtain ⟨machine, operation⟩ := moment
  cases operation with
  | load program =>
    refine Machine.countP_isBeep_eq_zero fun event member => ?_
    rcases Machine.load_events machine program event member with rfl
    rfl
  | step => exact (Machine.step_sound machine).1
  | tick =>
    simp only [tick?, sound_of_ne_step machine .tick nofun, Option.some.injEq]
    exact Machine.tick_beeps machine
  | input keys =>
    refine Machine.countP_isBeep_eq_zero fun event member => ?_
    rcases Machine.applyKeys_events machine keys event member with rfl | ⟨key, x, rfl⟩ <;> rfl
  | reset => rfl

/-- Unless the machine starts over, a moment counts the sound timer down if it has a tick, and
otherwise leaves it. -/
theorem after_sound (kept : moment.operation ≠ .reset) :
    moment.after.sound =
      if moment.tick?.isSome then Machine.countDown moment.sound else moment.sound := by
  obtain ⟨machine, operation⟩ := moment
  cases operation with
  | load program =>
    obtain ⟨memory, same⟩ := Machine.load_eq machine program
    have unchanged := congrArg Machine.sound same
    rw [sound_of_ne_step machine (.load program) nofun]
    exact unchanged
  | step => exact (Machine.step_sound machine).2
  | tick =>
    rw [sound_of_ne_step machine .tick nofun]
    rfl
  | input keys =>
    obtain ⟨registers, keyWait, _, same⟩ := Machine.applyKeys_eq machine keys
    have unchanged := congrArg Machine.sound same
    rw [sound_of_ne_step machine (.input keys) nofun]
    exact unchanged
  | reset => exact absurd rfl kept

/-- A tick finds the sound timer as it is before it. -/
theorem sound_of_tick {sound : UInt8} (found : moment.tick? = some sound) :
    moment.sound = sound := by
  unfold tick? at found
  split at found
  · exact Option.some.inj found
  · split at found
    · exact Option.some.inj found
    · cases found
  · cases found

end Moment

/-! ## Ticks one after another -/

/-- The ticks find a timer at a value and from then on lower by one each, down to zero. -/
def Falls : Nat → List UInt8 → Prop
  | _, [] => True
  | value, sound :: rest => sound.toNat = value ∧ Falls (value - 1) rest

namespace Falls

variable {value : Nat} {ticks : List UInt8}

theorem toNat_eq_one_iff {sound : UInt8} : sound.toNat = 1 ↔ sound = 1 :=
  UInt8.toNat_inj (b := 1)

/-- One of the ticks finds the timer at one if there are as many as its value says. -/
theorem count_one (falls : Falls value ticks) :
    ticks.count 1 = if 1 ≤ value ∧ value ≤ ticks.length then 1 else 0 := by
  induction ticks generalizing value with
  | nil =>
    have none : ¬ (1 ≤ value ∧ value ≤ 0) := by omega
    rw [List.length_nil, if_neg none]
    rfl
  | cons sound rest ih =>
    obtain ⟨rfl, later⟩ := falls
    simp only [List.count_cons, ih later, beq_iff_eq, ← toNat_eq_one_iff, List.length_cons]
    split <;> split <;> split <;> omega

/-- It is the one that is as many ticks on as the value says. -/
theorem map_eq (falls : Falls value ticks) :
    ticks.map (fun sound => if sound = 1 then 1 else 0) =
      (List.range ticks.length).map fun i => if i + 1 = value then 1 else 0 := by
  induction ticks generalizing value with
  | nil => rfl
  | cons sound rest ih =>
    obtain ⟨rfl, later⟩ := falls
    have shifted : ∀ i, i + 1 = sound.toNat - 1 ↔ i + 1 + 1 = sound.toNat := by omega
    rw [List.map_cons, ih later, List.length_cons, List.range_succ_eq_map, List.map_cons,
      List.map_map]
    congr 1
    · simp only [Nat.zero_add, ← toNat_eq_one_iff, eq_comm]
    · exact List.map_congr_left fun i _ => if_congr (shifted i) rfl rfl

end Falls

/-- What the tick of a moment finds goes on with what the later ticks find. -/
theorem Falls.moment {moment : Moment} {later : List UInt8} (kept : moment.operation ≠ .reset)
    (falls : Falls moment.after.sound.toNat later) :
    Falls moment.sound.toNat (moment.tick?.toList ++ later) := by
  rw [Moment.after_sound kept] at falls
  cases found : moment.tick? with
  | none =>
    rw [found] at falls
    exact falls
  | some sound =>
    rw [found, Option.isSome_some, if_pos rfl, Metered.toNat_countDown] at falls
    exact ⟨congrArg UInt8.toNat (Moment.sound_of_tick found).symm, falls⟩

/-! ## Runs -/

namespace Machine

variable {machine : Machine} {operation : Operation}

theorem ticks_cons (machine : Machine) (operation : Operation) (rest : List Operation) :
    machine.ticks (operation :: rest) = (Moment.mk machine operation).tick?.toList ++
      (machine.apply operation).machine.ticks rest :=
  filterMap_moments_cons machine Moment.tick? operation rest

theorem soundsSet_cons (machine : Machine) (operation : Operation) (rest : List Operation) :
    machine.soundsSet (operation :: rest) = (Moment.mk machine operation).soundSet?.toList ++
      (machine.apply operation).machine.soundsSet rest :=
  filterMap_moments_cons machine Moment.soundSet? operation rest

theorem beeps_cons (machine : Machine) (operation : Operation) (rest : List Operation) :
    machine.beeps (operation :: rest) =
      (Moment.mk machine operation).beeps + (machine.apply operation).machine.beeps rest :=
  List.countP_append

/-- A run beeps as often as a tick finds the sound timer at one. -/
theorem beeps_eq_count (machine : Machine) (operations : List Operation) :
    machine.beeps operations = (machine.ticks operations).count 1 := by
  induction operations generalizing machine with
  | nil => rfl
  | cons operation rest ih =>
    rw [beeps_cons, ticks_cons, List.count_append, ih, Moment.beeps_eq]
    cases (Moment.mk machine operation).tick? with
    | none => rfl
    | some sound => simp [List.count_singleton]

theorem beepsAtTicks_eq (machine : Machine) (operations : List Operation) :
    machine.beepsAtTicks operations =
      (machine.ticks operations).map fun sound => if sound = 1 then 1 else 0 := by
  induction operations generalizing machine with
  | nil => rfl
  | cons operation rest ih =>
    rw [ticks_cons, List.map_append, ← ih, beepsAtTicks, moments_cons]
    cases found : (Moment.mk machine operation).tick? with
    | none => simp [found, beepsAtTicks]
    | some sound => simp [found, beepsAtTicks, Moment.beeps_eq]

/-- A part of a run in which the machine does not start over and the sound timer is not set. -/
structure LeavesSound (machine : Machine) (part : List Operation) : Prop where
  kept : .reset ∉ part
  unset : machine.soundsSet part = []

/-- Over such a part the ticks find the sound timer falling from where it is. -/
theorem ticks_fall (part : List Operation) (leaves : LeavesSound machine part) :
    Falls machine.sound.toNat (machine.ticks part) := by
  induction part generalizing machine with
  | nil => trivial
  | cons operation rest ih =>
    obtain ⟨kept, unset⟩ := leaves
    rw [soundsSet_cons, List.append_eq_nil_iff, Option.toList_eq_nil_iff] at unset
    have other : operation ≠ .reset := fun reset => kept (by simp [reset])
    have same : (Moment.mk machine operation).sound = machine.sound := by
      rw [Moment.sound, unset.1]
      rfl
    have later := ih ⟨fun member => kept (List.mem_cons_of_mem _ member), unset.2⟩
    rw [ticks_cons, ← same]
    exact later.moment other

/-- After a cycle that sets the sound timer they find it falling from that value, which the tick of
that cycle may already find. -/
theorem ticks_fall_of_setSound {x : UInt8} {part : List Operation}
    (set : machine.step.result = .ok (.executed (.setSound x)))
    (leaves : LeavesSound machine.step.machine part) :
    Falls (machine.reg x).toNat (machine.ticks (.step :: part)) := by
  have value : (Moment.mk machine .step).sound = machine.reg x := by
    rw [sound_step, set]
  rw [ticks_cons, ← value]
  exact (ticks_fall part leaves).moment nofun

/-! ## Beeps and settings -/

/-- One as long as the sound timer can still bring about a beep. -/
def charge (sound : UInt8) : Nat :=
  if sound = 0 then 0 else 1

theorem charge_le_one (sound : UInt8) : charge sound ≤ 1 := by
  unfold charge
  split
  · exact Nat.zero_le 1
  · exact Nat.le_refl 1

theorem charge_countDown_le (sound : UInt8) :
    (if sound = 1 then 1 else 0) + charge (countDown sound) ≤ charge sound := by
  by_cases zero : sound = 0
  · subst zero
    decide
  · have full : charge sound = 1 := if_neg zero
    rw [full]
    split
    case isTrue one =>
      subst one
      decide
    case isFalse more =>
      rw [Nat.zero_add]
      exact charge_le_one _

/-- A moment beeps at the cost of a charge that it finds or makes, and to make one takes a setting
to a value other than zero. -/
theorem beeps_add_charge_le (moment : Moment) :
    moment.beeps + charge moment.after.sound ≤
      moment.soundSet?.toList.countP (· ≠ 0) + charge moment.before.sound := by
  have found : charge moment.sound ≤
      moment.soundSet?.toList.countP (· ≠ 0) + charge moment.before.sound := by
    unfold Moment.sound
    cases moment.soundSet? with
    | none => exact Nat.le_add_left _ _
    | some value =>
      by_cases zero : value = 0 <;> simp [charge, zero]
  refine Nat.le_trans ?_ found
  by_cases reset : moment.operation = .reset
  · obtain ⟨machine, operation⟩ := moment
    cases reset
    exact Nat.zero_le _
  · rw [Moment.beeps_eq, Moment.after_sound reset]
    cases ticked : moment.tick? with
    | none => simp
    | some sound =>
      rw [← Moment.sound_of_tick ticked]
      simpa using charge_countDown_le moment.sound

theorem beeps_le (machine : Machine) (operations : List Operation) :
    machine.beeps operations ≤
      (machine.soundsSet operations).countP (· ≠ 0) + charge machine.sound := by
  induction operations generalizing machine with
  | nil => exact Nat.zero_le _
  | cons operation rest ih =>
    have first := beeps_add_charge_le ⟨machine, operation⟩
    have later := ih (machine.apply operation).machine
    rw [beeps_cons, soundsSet_cons, List.countP_append]
    change _ + charge (machine.apply operation).machine.sound ≤ _ + charge machine.sound at first
    omega

end Machine

/-! ## Every run -/

namespace Metered

variable {metered : Metered}

theorem countCycle_ticks (metered : Metered) :
    metered.countCycle.ticks = metered.ticks + if metered.machine.divider - 1 = 0 then 1 else 0 := by
  unfold countCycle
  dsimp only
  split
  · simp only [ticks, drive]
    omega
  · rfl

theorem step_ticks (metered : Metered) :
    metered.step.ticks =
      metered.ticks + (Moment.mk metered.machine .step).tick?.toList.length := by
  have divider := (Machine.attempt_frame metered.machine).1
  rw [Machine.tick?_step, Machine.step_result]
  cases done : metered.machine.attempt.result with
  | error fault =>
    rw [step_of_error done]
    rfl
  | ok cycle =>
    rw [step_of_ok done, countCycle_ticks, divider]
    dsimp only [Machine.due?]
    split <;> rfl

theorem act_ticks (metered : Metered) (operation : Operation) :
    (metered.act operation).ticks =
      metered.ticks + (Moment.mk metered.machine operation).tick?.toList.length := by
  cases operation with
  | step => exact step_ticks metered
  | tick => exact (Nat.add_assoc metered.driven metered.asked 1).symm
  | load _ | input _ | reset => simp only [act, ticks, Moment.tick?, Option.toList_none,
      List.length_nil, Nat.add_zero]

/-- The ticks that a metered machine counts are those that find its sound timer. -/
theorem run_ticks (metered : Metered) (operations : List Operation) :
    (metered.run operations).ticks =
      metered.ticks + (metered.machine.ticks operations).length := by
  induction operations generalizing metered with
  | nil => rfl
  | cons operation rest ih =>
    rw [run_cons, ih, act_ticks, act_machine, Machine.ticks_cons, List.length_append,
      Nat.add_assoc]

end Metered

namespace Machine

/-- A machine beeps as often as its timers tick with the sound timer at one. After a cycle has set
the sound timer the first beep comes at the tick that is as many ticks on as the value says, the
tick of that cycle counted, unless the timer is set again or the machine starts over before; and
until then there is no other. Nothing beeps after a machine has started over either, and all in all
there are no more beeps than settings to a value other than zero. -/
theorem beep_accounting (rate : UInt32) (random : RandomSource) (before : List Operation) :
    ∃ start now,
      start = powerOn rate random ∧ now = start.run before ∧
      (∀ operations, now.beeps operations = (now.ticks operations).count 1 ∧
        (now.ticks operations).length = ((Metered.mk now 0 0).run operations).ticks) ∧
      (∀ x part, now.step.result = .ok (.executed (.setSound x)) →
        LeavesSound now.step.machine part →
        ∃ value ticks, value = (now.reg x).toNat ∧
          ticks = ((Metered.mk now 0 0).run (.step :: part)).ticks ∧
          now.beepsAtTicks (.step :: part) =
            (List.range ticks).map (fun i => if i + 1 = value then 1 else 0) ∧
          now.beeps (.step :: part) = if 1 ≤ value ∧ value ≤ ticks then 1 else 0) ∧
      (∀ part, LeavesSound now.reset.machine part → now.beeps (.reset :: part) = 0) ∧
      start.beeps before ≤ (start.soundsSet before).countP (· ≠ 0) := by
  have metered : ∀ (now : Machine) operations, (now.ticks operations).length =
      ((Metered.mk now 0 0).run operations).ticks := by
    intro now operations
    exact ((Metered.run_ticks _ _).trans (Nat.zero_add _)).symm
  refine ⟨_, _, rfl, rfl, fun operations => ⟨beeps_eq_count _ operations, metered _ operations⟩,
    ?_, ?_, ?_⟩
  · intro x part set leaves
    have falls := ticks_fall_of_setSound set leaves
    refine ⟨_, _, rfl, rfl, ?_, ?_⟩
    · rw [beepsAtTicks_eq, falls.map_eq, metered]
    · rw [beeps_eq_count, falls.count_one, metered]
  · intro part leaves
    have falls : Falls 0 (ticks _ part) := ticks_fall part leaves
    have silent : Moment.beeps ⟨(powerOn rate random).run before, .reset⟩ = 0 := Moment.beeps_eq _
    rw [beeps_cons, silent, Nat.zero_add]
    exact (beeps_eq_count _ part).trans falls.count_one
  · exact beeps_le (powerOn rate random) before

/-- A program that sets the sound timer to two and then goes round in a circle. -/
def soundOfTwo : List UInt8 := [0x60, 0x02, 0xF0, 0x18, 0x12, 0x04]

/-- What it comes to with two cycles to a tick: the cycle that sets the timer is one with a tick,
and two more ticks come by the end. -/
theorem soundOfTwo_facts :
    ∃ now : Machine,
      now = (powerOn 120 (.constant 0)).run [.load soundOfTwo, .step] ∧
      (now.reg 0).toNat = 2 ∧ now.step.result.toOption = some (.executed (.setSound 0)) ∧
      now.step.machine.soundsSet [.tick, .step, .step] = [] ∧
      ((Metered.mk now 0 0).run [.step, .tick, .step, .step]).ticks = 3 := by
  refine ⟨_, rfl, ?_⟩
  decide +kernel

theorem soundOfTwo_beeps :
    ∃ now : Machine, now.step.result = .ok (.executed (.setSound 0)) ∧
      LeavesSound now.step.machine [.tick, .step, .step] ∧
      now.beepsAtTicks [.step, .tick, .step, .step] = [0, 1, 0] ∧
      now.beeps [.step, .tick, .step, .step] = 1 := by
  obtain ⟨machine, ran, two, set, unset, three⟩ := soundOfTwo_facts
  obtain ⟨start, now, begun, reached, _, sets, _⟩ :=
    beep_accounting 120 (.constant 0) [.load soundOfTwo, .step]
  rw [begun, ← ran] at reached
  subst reached
  have leaves : LeavesSound now.step.machine [.tick, .step, .step] := ⟨by decide, unset⟩
  obtain ⟨value, ticks, read, counted, each, all⟩ := sets 0 _ (ok_of_toOption set) leaves
  rw [two] at read
  rw [three] at counted
  subst read counted
  exact ⟨now, ok_of_toOption set, leaves, each, all⟩

end Machine
end Chip8
