import Chip8.Proofs.Moments
import Chip8.Proofs.Timers
import Mathlib.Data.List.Forall2

/-!
# Programs that do not look at the timers

An instruction reads the timers only to put the delay timer into a register. Two machines that agree
on all but their timers and on how fast these count answer a program that does not do so alike,
whenever either of them ticks; and the sound timer is hidden from every program.
-/
namespace Chip8

/-- Two machines that agree on all but their timers, the divider and the rate. -/
structure Machine.EqualButTimers (a b : Machine) : Prop where
  memory : a.memory = b.memory
  registers : a.registers = b.registers
  index : a.index = b.index
  counter : a.counter = b.counter
  stack : a.stack = b.stack
  screen : a.screen = b.screen
  keys : a.keys = b.keys
  keyWait : a.keyWait = b.keyWait
  random : a.random = b.random

/-- Two machines that agree on all but their sound timers. -/
structure Machine.EqualButSound (a b : Machine) : Prop extends a.EqualButTimers b where
  rate : a.rate = b.rate
  delay : a.delay = b.delay
  divider : a.divider = b.divider

/-- What is reported beside beeps. -/
def Event.unheard (events : List Event) : List Event :=
  events.filter fun event => !event.isBeep

/-- Two operations that answered the same, reported the same beside beeps and led to machines in a
relation. -/
structure Outcome.Matches {α : Type} (related : Machine → Machine → Prop) (a b : Outcome α) :
    Prop where
  result : a.result = b.result
  machine : related a.machine b.machine
  events : Event.unheard a.events = Event.unheard b.events

def Moment.readsDelay (moment : Moment) : Bool :=
  match moment.executed? with
  | some (.loadDelay _) => true
  | _ => false

namespace Machine

variable {a b c : Machine}

namespace EqualButTimers

theorem refl (a : Machine) : a.EqualButTimers a :=
  ⟨rfl, rfl, rfl, rfl, rfl, rfl, rfl, rfl, rfl⟩

theorem symm (same : a.EqualButTimers b) : b.EqualButTimers a :=
  ⟨same.memory.symm, same.registers.symm, same.index.symm, same.counter.symm, same.stack.symm,
    same.screen.symm, same.keys.symm, same.keyWait.symm, same.random.symm⟩

theorem trans (first : a.EqualButTimers b) (second : b.EqualButTimers c) : a.EqualButTimers c :=
  ⟨first.memory.trans second.memory, first.registers.trans second.registers,
    first.index.trans second.index, first.counter.trans second.counter,
    first.stack.trans second.stack, first.screen.trans second.screen,
    first.keys.trans second.keys, first.keyWait.trans second.keyWait,
    first.random.trans second.random⟩

/-- The other machine is the first with its own timers, divider and rate. -/
theorem eq (same : a.EqualButTimers b) :
    b = { a with rate := b.rate, delay := b.delay, sound := b.sound, divider := b.divider } := by
  obtain ⟨memory, registers, index, counter, stack, screen, keys, keyWait, random⟩ := same
  rw [memory, registers, index, counter, stack, screen, keys, keyWait, random]

theorem overlay (same : a.EqualButTimers b) : ∃ rate delay sound divider,
    b = { a with rate := rate, delay := delay, sound := sound, divider := divider } :=
  ⟨b.rate, b.delay, b.sound, b.divider, same.eq⟩

theorem overlaid (a : Machine) (rate : UInt32) (delay sound : UInt8) (divider : Nat) :
    a.EqualButTimers { a with rate := rate, delay := delay, sound := sound, divider := divider } :=
  ⟨rfl, rfl, rfl, rfl, rfl, rfl, rfl, rfl, rfl⟩

theorem countCycle (a : Machine) : a.EqualButTimers a.countCycle.1 := by
  obtain ⟨delay, sound, divider, same⟩ := countCycle_eq a
  rw [same]
  exact overlaid a a.rate delay sound divider

end EqualButTimers

/-! ## Instructions -/

inductive EffectsEqual : Except Fault Effect → Except Fault Effect → Prop where
  | failed (fault : Fault) : EffectsEqual (.error fault) (.error fault)
  | done {a b : Machine} (flow : Flow) (events : List Event) (same : a.EqualButTimers b) :
    EffectsEqual (.ok ⟨a, flow, events⟩) (.ok ⟨b, flow, events⟩)

/-- After a first step that is the same only the rest has to go alike. -/
theorem EffectsEqual.bind {α : Type} {first : Except Fault α} {f g : α → Except Fault Effect}
    (rest : ∀ value, EffectsEqual (f value) (g value)) :
    EffectsEqual (first >>= f) (first >>= g) := by
  cases first with
  | error fault => exact .failed fault
  | ok value => exact rest value

theorem execute_equal (same : a.EqualButTimers b) (instruction : Instruction)
    (hidden : (∀ x, instruction ≠ .loadDelay x) ∨ a.delay = b.delay) :
    EffectsEqual (a.execute instruction) (b.execute instruction) := by
  obtain ⟨rate, delay, sound, divider, rfl⟩ := same.overlay
  cases instruction with
  | loadDelay x =>
    -- the one instruction that reads a timer
    have delays : a.delay = delay := hidden.resolve_left fun other => other x rfl
    subst delays
    exact .done _ _ (.overlaid _ _ _ _ _)
  | subReturn | call _ | draw _ _ _ | storeDigits _ | storeRegisters _ | loadRegisters _ =>
    exact .bind fun _ => .done _ _ (.overlaid _ _ _ _ _)
  | _ => exact .done _ _ (.overlaid _ _ _ _ _)

/-! ## Cycles -/

theorem perform_matches (same : a.EqualButTimers b) (word : UInt16) (instruction : Instruction)
    (hidden : (∀ x, (a.perform word instruction).result ≠ .ok (.executed (.loadDelay x))) ∨
      a.delay = b.delay) :
    (a.perform word instruction).Matches EqualButTimers (b.perform word instruction) := by
  have blind : (∀ x, instruction ≠ .loadDelay x) ∨ a.delay = b.delay :=
    hidden.imp_left fun unread x load => unread x (by rw [load]; rfl)
  have went := execute_equal same instruction blind
  have counter := same.counter
  unfold perform
  rw [counter]
  generalize a.execute instruction = first, b.execute instruction = second at went ⊢
  cases went with
  | failed fault => exact ⟨rfl, same, rfl⟩
  | done flow events after =>
    refine ⟨rfl, { after with counter := rfl }, ?_⟩
    simp only [presented, after.screen]

/-- A cycle that does not read the delay timer, or finds the same in it, does the same before it is
counted. -/
theorem attempt_matches (same : a.EqualButTimers b)
    (hidden : (∀ x, a.attempt.result ≠ .ok (.executed (.loadDelay x))) ∨ a.delay = b.delay) :
    a.attempt.Matches EqualButTimers b.attempt := by
  have performed := perform_matches same
  obtain ⟨rate, delay, sound, divider, rfl⟩ := same.overlay
  revert hidden
  unfold attempt runInstruction
  dsimp only
  split
  · exact fun _ => ⟨rfl, same, rfl⟩
  · split
    · exact fun _ => ⟨rfl, same, rfl⟩
    · split
      · exact performed _ _
      · exact fun _ => ⟨rfl, .overlaid _ _ _ _ _, rfl⟩

theorem unheard_append (first second : List Event) :
    Event.unheard (first ++ second) = Event.unheard first ++ Event.unheard second :=
  List.filter_append ..

theorem unheard_eq_nil {events : List Event} (beeps : ∀ event ∈ events, event = .soundExpired) :
    Event.unheard events = [] := by
  refine List.filter_eq_nil_iff.mpr fun event member => ?_
  rw [beeps event member]
  decide

theorem step_matches (same : a.EqualButTimers b)
    (hidden : (∀ x, a.step.result ≠ .ok (.executed (.loadDelay x))) ∨ a.delay = b.delay) :
    a.step.Matches EqualButTimers b.step := by
  rw [step_result] at hidden
  have tried := attempt_matches same hidden
  cases done : a.attempt.result with
  | error fault =>
    have other : b.attempt.result = .error fault := tried.result.symm.trans done
    rw [step_of_error done, step_of_error other]
    exact tried
  | ok cycle =>
    have other : b.attempt.result = .ok cycle := tried.result.symm.trans done
    rw [step_of_ok done, step_of_ok other]
    refine ⟨rfl, ?_, ?_⟩
    · exact (EqualButTimers.countCycle _).symm.trans (tried.machine.trans (.countCycle _))
    · simp only [counted, unheard_append, unheard_eq_nil (countCycle_events _), tried.events]

/-! ## Operations -/

theorem load_matches (same : a.EqualButTimers b) (program : List UInt8) :
    (a.load program).Matches EqualButTimers (b.load program) := by
  obtain ⟨rate, delay, sound, divider, rfl⟩ := same.overlay
  unfold load
  dsimp only
  split
  · exact ⟨rfl, .overlaid _ _ _ _ _, rfl⟩
  · exact ⟨rfl, same, rfl⟩

theorem applyKeys_equal (same : a.EqualButTimers b) (keys : Keypad) :
    (a.applyKeys keys).1.EqualButTimers (b.applyKeys keys).1 ∧
      (a.applyKeys keys).2 = (b.applyKeys keys).2 := by
  obtain ⟨rate, delay, sound, divider, rfl⟩ := same.overlay
  unfold applyKeys
  dsimp only
  split
  · exact ⟨.overlaid _ _ _ _ _, rfl⟩
  · exact ⟨.overlaid _ _ _ _ _, rfl⟩

theorem EqualButTimers.tick (a : Machine) : a.EqualButTimers a.tick.1 :=
  .overlaid a a.rate _ _ a.divider

theorem powerOn_equal (first second : UInt32) (random : RandomSource) :
    (powerOn first random).EqualButTimers (powerOn second random) :=
  ⟨rfl, rfl, rfl, rfl, rfl, rfl, rfl, rfl, rfl⟩

theorem readsDelay_step {x : UInt8} (read : a.step.result = .ok (.executed (.loadDelay x))) :
    (Moment.mk a .step).readsDelay = true := by
  rw [Moment.readsDelay, Moment.executed?_step, read]

/-- An operation that does not read the delay timer, or finds the same in it, does the same. -/
theorem apply_matches (same : a.EqualButTimers b) (operation : Operation)
    (hidden : (Moment.mk a operation).readsDelay = false ∨ a.delay = b.delay) :
    (a.apply operation).Matches EqualButTimers (b.apply operation) := by
  cases operation with
  | load program =>
    have loaded := load_matches same program
    exact ⟨congrArg (Except.map _) loaded.result, loaded.machine, loaded.events⟩
  | step =>
    have stepped := step_matches same <| hidden.imp_left fun unread x read =>
      Bool.eq_false_iff.mp unread (readsDelay_step read)
    exact ⟨congrArg (Except.map _) stepped.result, stepped.machine, stepped.events⟩
  | tick =>
    have quiet (machine : Machine) : Event.unheard machine.tick.2 = [] :=
      unheard_eq_nil (tick_events machine)
    exact ⟨rfl, (EqualButTimers.tick a).symm.trans (same.trans (.tick b)),
      (quiet a).trans (quiet b).symm⟩
  | input keys =>
    obtain ⟨machine, events⟩ := applyKeys_equal same keys
    exact ⟨rfl, machine, congrArg Event.unheard events⟩
  | reset =>
    refine ⟨rfl, ?_, rfl⟩
    rw [apply_reset, apply_reset, same.random]
    exact powerOn_equal a.rate b.rate b.random

/-! ## Runs with ticks at different times -/

/-- Two lists of operations that differ only in where they tick. -/
inductive EqualUpToTicks : List Operation → List Operation → Prop where
  | nil : EqualUpToTicks [] []
  | both {first second : List Operation} (operation : Operation)
    (rest : EqualUpToTicks first second) :
    EqualUpToTicks (operation :: first) (operation :: second)
  | left {first second : List Operation} (rest : EqualUpToTicks first second) :
    EqualUpToTicks (.tick :: first) second
  | right {first second : List Operation} (rest : EqualUpToTicks first second) :
    EqualUpToTicks first (.tick :: second)

namespace EqualUpToTicks

variable {first second : List Operation}

theorem ticks_right {ticks : List Operation} (none : ∀ operation ∈ ticks, operation = .tick)
    (rest : EqualUpToTicks first second) : EqualUpToTicks first (ticks ++ second) := by
  induction ticks with
  | nil => exact rest
  | cons operation ticks ih =>
    rw [none operation List.mem_cons_self]
    exact .right (ih fun other member => none other (List.mem_cons_of_mem _ member))

/-- Such are two lists that are the same once the ticks are taken out. -/
theorem of_filter (same : first.filter (· ≠ .tick) = second.filter (· ≠ .tick)) :
    EqualUpToTicks first second := by
  have all_ticks {ticks : List Operation} (none : ∀ operation ∈ ticks,
      ¬ (decide (operation ≠ .tick)) = true) : ∀ operation ∈ ticks, operation = .tick :=
    fun operation member => by simpa using none operation member
  induction first generalizing second with
  | nil =>
    have none := List.filter_eq_nil_iff.mp same.symm
    rw [← List.append_nil second]
    exact ticks_right (all_ticks none) .nil
  | cons operation first ih =>
    by_cases tick : operation = .tick
    · subst tick
      exact .left (ih same)
    · rw [List.filter_cons_of_pos (by simpa using tick)] at same
      obtain ⟨ticks, rest, rfl, none, _, later⟩ := List.filter_eq_cons_iff.mp same.symm
      exact ticks_right (all_ticks none) (.both operation (ih later.symm))

end EqualUpToTicks

/-- The outcomes of the operations other than ticks. -/
def untickedOutcomes (machine : Machine) (operations : List Operation) :
    List (Outcome (Except Fault Answer)) :=
  ((machine.moments operations).filter fun moment => moment.operation ≠ .tick).map Moment.outcome

theorem untickedOutcomes_cons {operation : Operation} (other : operation ≠ .tick)
    (machine : Machine) (rest : List Operation) :
    machine.untickedOutcomes (operation :: rest) =
      machine.apply operation :: (machine.apply operation).machine.untickedOutcomes rest := by
  simp [untickedOutcomes, other, Moment.outcome]

/-- Whenever either machine ticks, the other operations do the same until one of them reads the
delay timer. -/
theorem runs_match {first second : List Operation} (same : a.EqualButTimers b)
    (aligned : EqualUpToTicks first second)
    (hidden : ∀ moment ∈ a.moments first, moment.readsDelay = false) :
    List.Forall₂ (Outcome.Matches EqualButTimers) (a.untickedOutcomes first)
        (b.untickedOutcomes second) ∧
      (a.run first).EqualButTimers (b.run second) := by
  induction aligned generalizing a b with
  | nil => exact ⟨.nil, same⟩
  | left rest ih =>
    have ticked : a.tick.1.EqualButTimers b := (EqualButTimers.tick a).symm.trans same
    exact ih ticked fun moment member => hidden moment (List.mem_cons_of_mem _ member)
  | right rest ih =>
    have ticked : a.EqualButTimers b.tick.1 := same.trans (.tick b)
    exact ih ticked hidden
  | both operation rest ih =>
    have first := apply_matches same operation (.inl (hidden _ List.mem_cons_self))
    obtain ⟨later, ending⟩ := ih first.machine fun moment member =>
      hidden moment (List.mem_cons_of_mem _ member)
    refine ⟨?_, ending⟩
    by_cases tick : operation = .tick
    · subst tick
      exact later
    · rw [untickedOutcomes_cons tick, untickedOutcomes_cons tick]
      exact .cons first later

/-! ## Runs with another sound timer -/

/-- Before it is counted a cycle leaves the delay timers the same if it finds them the same. -/
theorem attempt_delay (same : a.EqualButTimers b) (delay : a.delay = b.delay) :
    a.attempt.machine.delay = b.attempt.machine.delay := by
  have tried := (attempt_matches same (.inr delay)).result
  by_cases set : ∃ x, a.attempt.result = .ok (.executed (.setDelay x))
  · obtain ⟨x, set⟩ := set
    rw [Metered.attempt_setDelay set, Metered.attempt_setDelay (tried.symm.trans set), reg, reg,
      same.registers]
  · have kept (x : UInt8) : a.attempt.result ≠ .ok (.executed (.setDelay x)) :=
      fun done => set ⟨x, done⟩
    rw [Metered.attempt_delay a kept, Metered.attempt_delay b (tried ▸ kept), delay]

theorem EqualButSound.overlay (same : a.EqualButSound b) : b = { a with sound := b.sound } := by
  have whole := same.eq
  rwa [← same.rate, ← same.delay, ← same.divider] at whole

theorem EqualButSound.overlaid (a : Machine) (sound : UInt8) :
    a.EqualButSound { a with sound := sound } :=
  ⟨EqualButTimers.overlaid a a.rate a.delay sound a.divider, rfl, rfl, rfl⟩

theorem countCycle_equal (same : a.EqualButSound b) :
    a.countCycle.1.EqualButSound b.countCycle.1 := by
  rw [same.overlay]
  generalize b.sound = sound
  unfold countCycle
  dsimp only
  split
  · exact EqualButSound.overlaid _ _
  · exact EqualButSound.overlaid _ _

theorem attempt_equal (same : a.EqualButSound b) :
    a.attempt.machine.EqualButSound b.attempt.machine := by
  obtain ⟨divider, rate⟩ := attempt_frame a
  obtain ⟨divider', rate'⟩ := attempt_frame b
  exact { (attempt_matches same.toEqualButTimers (.inr same.delay)).machine with
    rate := rate.trans (same.rate.trans rate'.symm)
    delay := attempt_delay same.toEqualButTimers same.delay
    divider := divider.trans (same.divider.trans divider'.symm) }

theorem step_equal (same : a.EqualButSound b) :
    a.step.machine.EqualButSound b.step.machine := by
  have tried := (attempt_matches same.toEqualButTimers (.inr same.delay)).result
  cases done : a.attempt.result with
  | error fault =>
    rw [step_of_error done, step_of_error (tried.symm.trans done)]
    exact attempt_equal same
  | ok cycle =>
    rw [step_of_ok done, step_of_ok (tried.symm.trans done)]
    exact countCycle_equal (attempt_equal same)

/-- Every operation does the same whatever the sound timer holds. -/
theorem apply_matches_sound (same : a.EqualButSound b) (operation : Operation) :
    (a.apply operation).Matches EqualButSound (b.apply operation) := by
  refine { apply_matches same.toEqualButTimers operation (.inr same.delay) with machine := ?_ }
  cases operation with
  | step => exact step_equal same
  | load program =>
    rw [same.overlay]
    unfold apply load
    dsimp only
    split
    · exact EqualButSound.overlaid _ _
    · exact EqualButSound.overlaid _ _
  | tick =>
    rw [same.overlay]
    exact EqualButSound.overlaid _ _
  | input keys =>
    rw [same.overlay]
    unfold apply applyKeys
    dsimp only
    split
    · exact EqualButSound.overlaid _ _
    · exact EqualButSound.overlaid _ _
  | reset =>
    rw [apply_reset, apply_reset, same.rate, same.random]
    exact ⟨.refl _, rfl, rfl, rfl⟩

theorem runs_match_sound (same : a.EqualButSound b) (operations : List Operation) :
    List.Forall₂ (Outcome.Matches EqualButSound) (a.outcomes operations) (b.outcomes operations) ∧
      (a.run operations).EqualButSound (b.run operations) := by
  induction operations generalizing a b with
  | nil => exact ⟨.nil, same⟩
  | cons operation rest ih =>
    have first := apply_matches_sound same operation
    obtain ⟨later, ending⟩ := ih first.machine
    exact ⟨.cons first later, ending⟩

/-- As long as no instruction reads the delay timer, two machines that agree on all but their timers,
the divider and the rate answer the same operations the same and keep agreeing, with ticks put in
anywhere on either side. And machines that agree on all but their sound timers do so whatever they
execute, beeps apart. -/
theorem timers_hidden (same : a.EqualButTimers b) :
    (∀ first second : List Operation,
      first.filter (· ≠ .tick) = second.filter (· ≠ .tick) →
      (∀ moment ∈ a.moments first, moment.readsDelay = false) →
      List.Forall₂ (Outcome.Matches EqualButTimers) (a.untickedOutcomes first)
          (b.untickedOutcomes second) ∧
        (a.run first).EqualButTimers (b.run second)) ∧
    (a.EqualButSound b → ∀ operations : List Operation,
      List.Forall₂ (Outcome.Matches EqualButSound) (a.outcomes operations)
          (b.outcomes operations) ∧
        (a.run operations).EqualButSound (b.run operations)) :=
  ⟨fun _ _ aligned hidden => runs_match same (.of_filter aligned) hidden,
    fun sound operations => runs_match_sound sound operations⟩

/-- A slow machine and a fast one, which also ticks from outside, come to different delay timers and
agree on all that their program sees; and a sound timer that is running makes no difference. -/
theorem delayOfFive_hidden :
    ∃ slow fast : Machine,
      slow = (powerOn 60 (.constant 0)).run [.load Metered.delayOfFive, .step, .step, .step] ∧
      fast = (powerOn 600 (.constant 0)).run
        [.load Metered.delayOfFive, .step, .tick, .step, .tick, .step] ∧
      slow.delay = 3 ∧ fast.delay = 4 ∧ slow.EqualButTimers fast ∧
      slow.EqualButSound ({ powerOn 60 (.constant 0) with sound := 7 }.run
        [.load Metered.delayOfFive, .step, .step, .step]) := by
  refine ⟨_, _, rfl, rfl, by decide +kernel, by decide +kernel, ?_, ?_⟩
  · exact ((timers_hidden (powerOn_equal 60 600 _)).1 _ _ (by decide) (by decide +kernel)).2
  · have sound := EqualButSound.overlaid (powerOn 60 (.constant 0)) 7
    exact ((timers_hidden sound.toEqualButTimers).2 sound _).2

end Machine
end Chip8
