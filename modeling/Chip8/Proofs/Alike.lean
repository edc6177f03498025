import Chip8.Proofs.Cycle
import Mathlib.Data.List.Forall2

/-!
# Machines that differ in their random source only

What a machine does depends on its random source only through the bytes that are still to come. Two
machines that agree on all else, and whose sources have the same bytes to come, answer every
operation alike and stay so.
-/
namespace Chip8

def RandomSource.SameBytes (a b : RandomSource) : Prop :=
  ∀ i, a.remaining i = b.remaining i

namespace RandomSource.SameBytes

variable {a b : RandomSource}

theorem refl (a : RandomSource) : a.SameBytes a :=
  fun _ => rfl

theorem draw_fst (same : a.SameBytes b) : a.draw.1 = b.draw.1 :=
  same 0

theorem draw_snd (same : a.SameBytes b) : a.draw.2.SameBytes b.draw.2 := by
  intro i
  have later := same (i + 1)
  simp only [remaining, draw, Nat.add_assoc, Nat.add_comm i 1] at later ⊢
  exact later

end RandomSource.SameBytes

/-- Two machines that agree on all but their random sources, which have the same bytes to come. -/
inductive Machine.Alike (machine : Machine) : Machine → Prop where
  | intro (random : RandomSource) (bytes : machine.random.SameBytes random) :
    Alike machine { machine with random := random }

structure Outcome.Alike {α : Type} (a b : Outcome α) : Prop where
  result : a.result = b.result
  machine : a.machine.Alike b.machine
  events : a.events = b.events

namespace Machine

theorem Alike.rate {a b : Machine} (alike : a.Alike b) : a.rate = b.rate := by
  cases alike
  rfl

theorem Alike.counter {a b : Machine} (alike : a.Alike b) : a.counter = b.counter := by
  cases alike
  rfl

theorem Alike.bytes {a b : Machine} (alike : a.Alike b) : a.random.SameBytes b.random := by
  cases alike
  assumption

/-! ## Instructions -/

inductive EffectsAlike : Except Fault Effect → Except Fault Effect → Prop where
  | failed (fault : Fault) : EffectsAlike (.error fault) (.error fault)
  | done {a b : Machine} (flow : Flow) (events : List Event) (machine : a.Alike b) :
    EffectsAlike (.ok ⟨a, flow, events⟩) (.ok ⟨b, flow, events⟩)

/-- After a first step that is the same only the rest has to go alike. -/
theorem EffectsAlike.bind {α : Type} {first : Except Fault α} {f g : α → Except Fault Effect}
    (rest : ∀ value, EffectsAlike (f value) (g value)) :
    EffectsAlike (first >>= f) (first >>= g) := by
  cases first with
  | error fault => exact .failed fault
  | ok value => exact rest value

variable {a b : Machine}

theorem execute_alike (alike : a.Alike b) (instruction : Instruction) :
    EffectsAlike (a.execute instruction) (b.execute instruction) := by
  cases alike with
  | intro random bytes =>
    cases instruction with
    | random x mask =>
      -- the one instruction that draws a byte
      have drawn : EffectsAlike (a.execute (.random x mask)) (.ok (proceed
          ({ a with random := random.draw.2 }.setReg x (a.random.draw.1 &&& mask)))) :=
        .done .next [] (.intro random.draw.2 bytes.draw_snd)
      rw [bytes.draw_fst] at drawn
      exact drawn
    | subReturn | call _ | draw _ _ _ | storeDigits _ | storeRegisters _ | loadRegisters _ =>
      exact .bind fun _ => .done _ _ (.intro random bytes)
    | _ => exact .done _ _ (.intro random bytes)

/-! ## Cycles and operations -/

theorem countCycle_alike (alike : a.Alike b) :
    a.countCycle.1.Alike b.countCycle.1 ∧ a.countCycle.2 = b.countCycle.2 := by
  cases alike with
  | intro random bytes =>
    unfold countCycle
    dsimp only
    split
    · exact ⟨.intro random bytes, rfl⟩
    · exact ⟨.intro random bytes, rfl⟩

theorem perform_alike (alike : a.Alike b) (word : UInt16) (instruction : Instruction) :
    (a.perform word instruction).Alike (b.perform word instruction) := by
  have went := execute_alike alike instruction
  have counter := alike.counter
  unfold perform
  rw [counter]
  generalize a.execute instruction = first, b.execute instruction = second at went ⊢
  cases went with
  | failed fault => exact ⟨rfl, alike, rfl⟩
  | done flow events machine =>
    cases machine with
    | intro random bytes => exact ⟨rfl, .intro random bytes, rfl⟩

theorem attempt_alike (alike : a.Alike b) : a.attempt.Alike b.attempt := by
  have performed := perform_alike alike
  cases alike with
  | intro random bytes =>
    unfold attempt runInstruction
    dsimp only
    split
    · exact ⟨rfl, .intro random bytes, rfl⟩
    · split
      · exact ⟨rfl, .intro random bytes, rfl⟩
      · split
        · exact performed _ _
        · exact ⟨rfl, .intro random bytes, rfl⟩

theorem step_alike (alike : a.Alike b) : a.step.Alike b.step := by
  have tried := attempt_alike alike
  cases done : a.attempt.result with
  | error fault =>
    have same : b.attempt.result = .error fault := tried.result.symm.trans done
    rw [step_of_error done, step_of_error same]
    exact tried
  | ok cycle =>
    have same : b.attempt.result = .ok cycle := tried.result.symm.trans done
    obtain ⟨machine, events⟩ := countCycle_alike tried.machine
    rw [step_of_ok done, step_of_ok same]
    refine ⟨rfl, machine, ?_⟩
    simp only [counted, tried.events, events]

theorem applyKeys_alike (alike : a.Alike b) (keys : Keypad) :
    (a.applyKeys keys).1.Alike (b.applyKeys keys).1 ∧
      (a.applyKeys keys).2 = (b.applyKeys keys).2 := by
  cases alike with
  | intro random bytes =>
    unfold applyKeys
    dsimp only
    split
    · exact ⟨.intro random bytes, rfl⟩
    · exact ⟨.intro random bytes, rfl⟩

theorem load_alike (alike : a.Alike b) (program : List UInt8) :
    (a.load program).Alike (b.load program) := by
  cases alike with
  | intro random bytes =>
    unfold load
    dsimp only
    split
    · exact ⟨rfl, .intro random bytes, rfl⟩
    · exact ⟨rfl, .intro random bytes, rfl⟩

theorem powerOn_alike {first second : RandomSource} (rate : UInt32)
    (bytes : first.SameBytes second) : (powerOn rate first).Alike (powerOn rate second) :=
  .intro second bytes

theorem reset_alike (alike : a.Alike b) : a.reset.Alike b.reset := by
  cases alike with
  | intro random bytes => exact ⟨rfl, powerOn_alike a.rate bytes, rfl⟩

/-- Machines that are alike answer every operation alike. -/
theorem apply_alike (alike : a.Alike b) (operation : Operation) :
    (a.apply operation).Alike (b.apply operation) := by
  cases operation with
  | load program =>
    have loaded := load_alike alike program
    exact ⟨congrArg (Except.map _) loaded.result, loaded.machine, loaded.events⟩
  | step =>
    have stepped := step_alike alike
    exact ⟨congrArg (Except.map _) stepped.result, stepped.machine, stepped.events⟩
  | tick =>
    cases alike with
    | intro random bytes => exact ⟨rfl, .intro random bytes, rfl⟩
  | input keys =>
    obtain ⟨machine, events⟩ := applyKeys_alike alike keys
    exact ⟨rfl, machine, events⟩
  | reset =>
    have started := reset_alike alike
    exact ⟨rfl, started.machine, started.events⟩

/-- Machines that are alike answer all operations one after another alike. -/
theorem outcomes_alike (alike : a.Alike b) (operations : List Operation) :
    List.Forall₂ Outcome.Alike (a.outcomes operations) (b.outcomes operations) := by
  induction operations generalizing a b with
  | nil => exact .nil
  | cons operation rest ih =>
    have first := apply_alike alike operation
    exact .cons first (ih first.machine)

end Machine
end Chip8
