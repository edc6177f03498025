import Chip8.Proofs.Console.Runs
import Chip8.Proofs.StraightLine

/-!
# Programs that end in half a word

The halt marker stands directly behind a program, and a machine that goes through a program word by
word finds it there only behind whole words. Behind half a word the fetch at the last byte joins it
with the first byte of the marker, the next one joins the second byte of the marker with a zero, and
all further ones find zeros, until the one at the end of memory faults. So the marker is never
found, and it is a fault that halts a console.
-/
namespace Chip8

/-- A word that does not lead away from a straight line: that of a straight instruction, or none. -/
def KeepsLine (word : UInt16) : Prop :=
  (Instruction.ofWord? word).all Instruction.isStraight = true

instance (word : UInt16) : Decidable (KeepsLine word) :=
  inferInstanceAs (Decidable ((Instruction.ofWord? word).all Instruction.isStraight = true))

/-- A program of so many words and half a word more, where none of the words is the halt marker or
leads away from a straight line, and which leaves room for the halt marker. -/
structure OddLine (program : List UInt8) (n : Nat) : Prop where
  length : program.length = 2 * n + 1
  fits : program.length ≤ 3581
  unmarked : ∀ k < n, Memory.wordAt program k ≠ 0x0EFD
  straight : ∀ k < n, KeepsLine (Memory.wordAt program k)

/-- The last byte of a program and the first one of the halt marker. -/
def OddLine.joined (program : List UInt8) (n : Nat) : UInt16 :=
  (program.getD (2 * n) 0).toUInt16 <<< 8 ||| 0x0E

/-! ## The words that are found -/

namespace OddLine

variable {program : List UInt8} {n k : Nat}

theorem wordAt_before (line : OddLine program n) (inside : k < n) :
    Memory.wordAt (program ++ Memory.haltMarker) k = Memory.wordAt program k := by
  have length := line.length
  exact Memory.wordAt_append_left _ (by omega)

theorem wordAt_joined (line : OddLine program n) :
    Memory.wordAt (program ++ Memory.haltMarker) n = joined program n := by
  have last : 2 * n < program.length := by
    rw [line.length]
    omega
  have high : (program ++ Memory.haltMarker).getD (2 * n) 0 = program.getD (2 * n) 0 := by
    simp [List.getElem?_append_left last]
  have low : (program ++ Memory.haltMarker).getD (2 * n + 1) 0 = 0x0E := by
    simp [Memory.haltMarker, ← line.length]
  rw [Memory.wordAt, high, low]
  rfl

theorem wordAt_marker (line : OddLine program n) :
    Memory.wordAt (program ++ Memory.haltMarker) (n + 1) = 0xFD00 := by
  have place : 2 * (n + 1) = program.length + 1 := by
    rw [line.length]
    omega
  have high : (program ++ Memory.haltMarker).getD (2 * (n + 1)) 0 = 0xFD := by
    rw [place]
    simp [Memory.haltMarker]
  have low : (program ++ Memory.haltMarker).getD (2 * (n + 1) + 1) 0 = 0 := by
    rw [place]
    simp [Memory.haltMarker]
  rw [Memory.wordAt, high, low]
  decide

theorem wordAt_behind (line : OddLine program n) (behind : n + 1 < k) :
    Memory.wordAt (program ++ Memory.haltMarker) k = 0 := by
  have length : (program ++ Memory.haltMarker).length ≤ 2 * k := by
    rw [List.length_append, line.length]
    show 2 * n + 1 + 2 ≤ 2 * k
    omega
  rw [Memory.wordAt, List.getD_eq_getElem?_getD, List.getD_eq_getElem?_getD,
    List.getElem?_eq_none length, List.getElem?_eq_none (Nat.le_succ_of_le length)]
  rfl

theorem joined_ne (program : List UInt8) (n : Nat) : joined program n ≠ 0x0EFD := by
  intro marker
  have sum : (joined program n).toNat = 256 * (program.getD (2 * n) 0).toNat + 0x0E :=
    Memory.toNat_join _ 0x0E
  rw [marker] at sum
  simp only [UInt16.reduceToNat] at sum
  omega

/-- The words that are found: those of the program, the joined one, and two that are no
instruction. -/
theorem wordAt_cases (line : OddLine program n) (k : Nat) :
    (k < n ∧ Memory.wordAt (program ++ Memory.haltMarker) k = Memory.wordAt program k) ∨
      Memory.wordAt (program ++ Memory.haltMarker) k = joined program n ∨
      Memory.wordAt (program ++ Memory.haltMarker) k = 0xFD00 ∨
      Memory.wordAt (program ++ Memory.haltMarker) k = 0 := by
  rcases Nat.lt_trichotomy k n with before | rfl | behind
  · exact .inl ⟨before, line.wordAt_before before⟩
  · exact .inr (.inl line.wordAt_joined)
  · rcases Nat.eq_or_lt_of_le behind with rfl | behind
    · exact .inr (.inr (.inl line.wordAt_marker))
    · exact .inr (.inr (.inr (line.wordAt_behind behind)))

/-- None of them is the halt marker. -/
theorem wordAt_ne (line : OddLine program n) (k : Nat) :
    Memory.wordAt (program ++ Memory.haltMarker) k ≠ 0x0EFD := by
  rcases line.wordAt_cases k with ⟨before, same⟩ | same | same | same
  · rw [same]
    exact line.unmarked k before
  · rw [same]
    exact joined_ne program n
  · rw [same]
    decide
  · rw [same]
    decide

theorem keepsLine_before (line : OddLine program n) (inside : k < n) :
    KeepsLine (Memory.wordAt (program ++ Memory.haltMarker) k) := by
  rw [line.wordAt_before inside]
  exact line.straight k inside

/-- If the joined word does not lead away, none does. -/
theorem keepsLine (line : OddLine program n) (stays : KeepsLine (joined program n)) (k : Nat) :
    KeepsLine (Memory.wordAt (program ++ Memory.haltMarker) k) := by
  rcases line.wordAt_cases k with ⟨before, same⟩ | same | same | same
  · rw [same]
    exact line.straight k before
  · rw [same]
    exact stays
  · rw [same]
    decide
  · rw [same]
    decide

/-- Such a program ends well before the end of memory. -/
theorem lt_end (line : OddLine program n) : n < 1792 := by
  have length := line.length
  have fits := line.fits
  omega

end OddLine

/-! ## One operation -/

/-- The cycles of so many words of a program from one on, none of which faults. -/
def Cycle.ofWords (program : List UInt8) (k count : Nat) : List (Except Fault Cycle) :=
  (List.range' k count).map fun j => .ok (.ofWord (Memory.wordAt program j))

namespace Machine

variable {program : List UInt8} {n k : Nat} {machine : Machine} {operation : Operation}
  {operations : List Operation}

/-- A cycle that finds a word executes it, or steps over it, or faults. -/
theorem AtWord.step_result (at_word : AtWord program k machine) (inside : k < 1792) :
    machine.step.result = .ok (.ofWord (Memory.wordAt (program ++ Memory.haltMarker) k)) ∨
      ∃ fault, machine.step.result = .error fault := by
  have found := at_word.found inside
  unfold Cycle.ofWord
  have way := step_cases machine
  generalize machine.step = outcome at way ⊢
  cases way with
  | waits wait => cases at_word.free.symm.trans wait
  | unreadable _ unread => exact .inr ⟨_, rfl⟩
  | skips _ read unknown =>
    cases found.symm.trans read
    rw [unknown]
    exact .inl rfl
  | faults _ _ _ _ => exact .inr ⟨_, rfl⟩
  | executes _ read decoded _ =>
    cases found.symm.trans read
    rw [decoded]
    exact .inl rfl

/-- Behind the last word that memory has room for a cycle faults. -/
theorem AtWord.step_end (at_word : AtWord program 1792 machine) :
    machine.step.result = .error (.addressOutOfBounds 0x1000) := by
  have unread : machine.memory.readWord machine.counter.toNat =
      .error (.addressOutOfBounds 0x1000) := by
    rw [at_word.counter]
    exact Memory.readWord_error (by decide)
  rw [step_of_unreadable at_word.free unread]

/-- At a word that keeps to the line it stands at the next one then, or it faults and has not
moved. -/
theorem AtWord.step_on (at_word : AtWord program k machine) (inside : k ≤ 1792)
    (straight : KeepsLine (Memory.wordAt (program ++ Memory.haltMarker) k)) :
    (k < 1792 ∧
        machine.step.result = .ok (.ofWord (Memory.wordAt (program ++ Memory.haltMarker) k)) ∧
        AtWord program (k + 1) machine.step.machine) ∨
      ∃ fault, machine.step.result = .error fault ∧ AtWord program k machine.step.machine := by
  have stands : ∀ {fault}, machine.step.result = .error fault →
      AtWord program k machine.step.machine := fun failed => by
    have same : machine.step.machine = machine := (step_error_frame failed).1
    rw [same]
    exact at_word
  rcases Nat.eq_or_lt_of_le inside with rfl | here
  · exact .inr ⟨_, at_word.step_end, stands at_word.step_end⟩
  · have small : 0x200 + 2 * (k + 1) < UInt16.size := by
      simp only [UInt16.size]
      omega
    rcases at_word.step_of_straight (at_word.found here) straight small with beyond | next
    · obtain ⟨⟨address, failed⟩, _⟩ := beyond
      exact .inr ⟨_, failed, stands failed⟩
    · exact .inl ⟨here, next⟩

/-- Ticks and keys do not move it. -/
theorem AtWord.beside (at_word : AtWord program k machine) (other : operation ≠ .step)
    (leaves : operation.LeavesProgram) : AtWord program k (machine.apply operation).machine := by
  cases operation with
  | load _ | reset => exact leaves.elim
  | step => exact absurd rfl other
  | tick => exact ⟨at_word.memory, at_word.counter, at_word.free⟩
  | input keys =>
    show AtWord program k (machine.applyKeys keys).1
    rw [applyKeys_of_idle (.inl at_word.free)]
    exact ⟨at_word.memory, at_word.counter, at_word.free⟩

/-! ## Runs -/

/-- While its cycles go through and the words keep to the line, a machine finds them one after
another. -/
theorem AtWord.run
    (straight : ∀ j < k + (machine.results operations).length,
      KeepsLine (Memory.wordAt (program ++ Memory.haltMarker) j))
    (leave : ∀ operation ∈ operations, operation.LeavesProgram)
    (through : ∀ result ∈ machine.results operations, ∃ cycle, result = .ok cycle)
    (at_word : AtWord program k machine)
    (inside : k + (machine.results operations).length ≤ 1792) :
    machine.results operations =
        Cycle.ofWords (program ++ Memory.haltMarker) k (machine.results operations).length ∧
      AtWord program (k + (machine.results operations).length) (machine.run operations) := by
  induction operations generalizing machine k with
  | nil => exact ⟨rfl, at_word⟩
  | cons operation rest ih =>
    obtain ⟨now, later⟩ := List.forall_mem_cons.mp leave
    by_cases stepped : operation = .step
    · subst stepped
      rw [results_step] at straight through inside ⊢
      obtain ⟨⟨cycle, first⟩, through⟩ := List.forall_mem_cons.mp through
      rw [List.length_cons, ← Nat.add_assoc, Nat.add_right_comm] at straight inside ⊢
      have way := at_word.step_on (by omega) (straight k (by omega))
      rcases way with ⟨_, result, next⟩ | ⟨_, failed, _⟩
      · obtain ⟨onwards, reached⟩ := ih straight later through next inside
        refine ⟨?_, reached⟩
        rw [Cycle.ofWords, List.range'_succ, List.map_cons, result]
        exact congrArg _ onwards
      · cases first.symm.trans failed
    · rw [results_of_ne_step machine stepped] at straight through inside ⊢
      exact ih straight later through (at_word.beside stepped now) inside

/-- In a straight line to the end of memory no more cycles go through than there are words. -/
theorem AtWord.length_le
    (straight : ∀ j, KeepsLine (Memory.wordAt (program ++ Memory.haltMarker) j))
    (leave : ∀ operation ∈ operations, operation.LeavesProgram)
    (through : ∀ result ∈ machine.results operations, ∃ cycle, result = .ok cycle)
    (at_word : AtWord program k machine) (inside : k ≤ 1792) :
    k + (machine.results operations).length ≤ 1792 := by
  induction operations generalizing machine k with
  | nil => exact inside
  | cons operation rest ih =>
    obtain ⟨now, later⟩ := List.forall_mem_cons.mp leave
    by_cases stepped : operation = .step
    · subst stepped
      rw [results_step] at through ⊢
      obtain ⟨⟨cycle, first⟩, through⟩ := List.forall_mem_cons.mp through
      rcases at_word.step_on inside (straight k) with ⟨here, _, next⟩ | ⟨_, failed, _⟩
      · have reached := ih later through next here
        rw [List.length_cons]
        omega
      · cases first.symm.trans failed
    · rw [results_of_ne_step machine stepped] at through ⊢
      exact ih later through (at_word.beside stepped now) inside

/-- A cycle that finds some word behind the start of a program, or faults. -/
def FindsWord (program : List UInt8) (result : Except Fault Cycle) : Prop :=
  (∃ j, result = .ok (.ofWord (Memory.wordAt (program ++ Memory.haltMarker) j))) ∨
    ∃ fault, result = .error fault

theorem AtWord.findsWord (at_word : AtWord program k machine) (inside : k ≤ 1792) :
    FindsWord program machine.step.result := by
  rcases Nat.eq_or_lt_of_le inside with rfl | here
  · exact .inr ⟨_, at_word.step_end⟩
  · exact (at_word.step_result here).imp_left fun found => ⟨k, found⟩

/-- So do so many cycles of a run, faults or not, if all words but the last one that they may find
keep to the line. -/
theorem AtWord.finds {count : Nat}
    (straight : ∀ j, j + 1 < k + count → KeepsLine (Memory.wordAt (program ++ Memory.haltMarker) j))
    (leave : ∀ operation ∈ operations, operation.LeavesProgram)
    (at_word : AtWord program k machine) (inside : k ≤ 1792) :
    ∀ result ∈ (machine.results operations).take count, FindsWord program result := by
  induction operations generalizing machine k count with
  | nil => simp
  | cons operation rest ih =>
    obtain ⟨now, later⟩ := List.forall_mem_cons.mp leave
    by_cases stepped : operation = .step
    case neg =>
      rw [results_of_ne_step machine stepped]
      exact ih straight later (at_word.beside stepped now) inside
    case pos =>
      subst stepped
      rcases count with _ | _ | count
      · simp
      · simpa using at_word.findsWord inside
      · rw [results_step, List.take_succ_cons, List.forall_mem_cons]
        refine ⟨at_word.findsWord inside, ?_⟩
        rcases at_word.step_on inside (straight k (by omega)) with ⟨here, _, next⟩ | ⟨_, _, same⟩
        · exact ih (fun j before => straight j (by omega)) later next here
        · exact ih (fun j before => straight j (by omega)) later same inside

/-- The halt marker is not among the words that are found. -/
theorem FindsWord.ne_marker {result : Except Fault Cycle} (line : OddLine program n)
    (finds : FindsWord program result) : result ≠ .ok (.decodeFault 0x0EFD) := by
  rcases finds with ⟨j, rfl⟩ | ⟨fault, rfl⟩
  · have other := line.wordAt_ne j
    unfold Cycle.ofWord
    split
    · simp
    · simpa using other
  · simp

theorem FindsWord.ends_iff {result : Except Fault Cycle} (line : OddLine program n)
    (finds : FindsWord program result) :
    Cycle.ends result = true ↔ ∃ fault, result = .error fault := by
  have other := finds.ne_marker line
  rcases finds with ⟨j, rfl⟩ | ⟨fault, rfl⟩
  · unfold Cycle.ends
    split <;> simp_all
  · simp [Cycle.ends]

/-! ## Past the marker -/

/-- How a run goes, none of whose cycles has faulted, from the first word of a program that ends in
half a word. -/
structure PassesMarker (program : List UInt8) (n : Nat) (start : Machine)
    (operations : List Operation) : Prop where
  /-- Up to the last whole word the words of the program are found one after another. -/
  before : (start.results operations).length ≤ n →
    start.results operations = Cycle.ofWords program 0 (start.results operations).length ∧
      (start.run operations).counter.toNat = 0x200 + 2 * (start.results operations).length ∧
      (start.run operations).memory = start.memory
  /-- Then the last byte is found, and the first one of the halt marker with it. -/
  joins : (start.results operations).length = n →
    (start.run operations).memory.HoldsWord (start.run operations).counter.toNat
        (OddLine.joined program n) ∧
      ((start.run operations).step.result = .ok (.ofWord (OddLine.joined program n)) ∨
        ∃ fault, (start.run operations).step.result = .error fault) ∧
      (start.run operations).step.result ≠ .ok (.decodeFault 0x0EFD)
  /-- If this word does not lead elsewhere, the ones behind it are found up to the end of memory. -/
  behind : KeepsLine (OddLine.joined program n) →
    start.results operations =
        Cycle.ofWords (program ++ Memory.haltMarker) 0 (start.results operations).length ∧
      (start.results operations).length ≤ 1792 ∧
      ((start.results operations).length = 1792 →
        (start.run operations).step.result = .error (.addressOutOfBounds 0x1000))

theorem ofWords_marked (line : OddLine program n) {count : Nat} (inside : count ≤ n) :
    Cycle.ofWords (program ++ Memory.haltMarker) 0 count = Cycle.ofWords program 0 count := by
  refine List.map_congr_left fun j member => ?_
  have before : j < n := by
    have small := (List.mem_range'_1.mp member).2
    omega
  rw [line.wordAt_before before]

theorem passesMarker (line : OddLine program n) {start : Machine} (at_word : AtWord program 0 start)
    (leave : ∀ operation ∈ operations, operation.LeavesProgram)
    (through : ∀ result ∈ start.results operations, ∃ cycle, result = .ok cycle) :
    PassesMarker program n start operations := by
  have short := line.lt_end
  constructor
  case before =>
    intro inside
    obtain ⟨found, reached⟩ := at_word.run (fun j before => line.keepsLine_before (by omega)) leave
      through (by omega)
    rw [Nat.zero_add] at reached
    exact ⟨found.trans (ofWords_marked line inside), reached.counter,
      reached.memory.trans at_word.memory.symm⟩
  case joins =>
    intro all
    obtain ⟨_, reached⟩ := at_word.run (fun j before => line.keepsLine_before (by omega)) leave
      through (by omega)
    rw [Nat.zero_add, all] at reached
    have held := Memory.readWord_eq_ok_iff.mp (reached.found short)
    have result := reached.step_result short
    rw [line.wordAt_joined] at held
    refine ⟨held, line.wordAt_joined ▸ result, ?_⟩
    exact FindsWord.ne_marker line (result.imp_left fun found => ⟨n, found⟩)
  case behind =>
    intro stays
    have straight := line.keepsLine stays
    have most := at_word.length_le straight leave through (Nat.zero_le _)
    obtain ⟨found, reached⟩ := at_word.run (fun j _ => straight j) leave through most
    rw [Nat.zero_add] at most reached
    refine ⟨found, most, fun all => ?_⟩
    rw [all] at reached
    exact reached.step_end

end Machine

/-! ## Consoles -/

namespace Recorder

variable {program : List UInt8} {n patience : Nat} {console : Console} {after : Recorder}
  {turns : List Turn}

/-- How it goes with a console that runs a program which ends in half a word. -/
structure PassesMarker (program : List UInt8) (n : Nat) (after : Recorder) : Prop where
  /-- Up to the cycle that finds the last byte the halt marker has not been found. -/
  unmarked : ∀ result ∈ after.results.take (n + 1), result ≠ .ok (.decodeFault 0x0EFD)
  /-- So the console goes on, unless a cycle has faulted. -/
  goes_on : after.results.length ≤ n + 1 →
    (after.console.halted = true ↔ ∃ fault, .error fault ∈ after.results)
  /-- If the last byte and what follows do not lead elsewhere, only a fault ever halts it, at the
  end of memory if not before. -/
  behind : KeepsLine (OddLine.joined program n) →
    (∀ result ∈ after.results, result ≠ .ok (.decodeFault 0x0EFD)) ∧
      (after.console.halted = true ↔ ∃ fault, .error fault ∈ after.results) ∧
      (1793 ≤ after.results.length → after.console.halted = true)

/-- Where every cycle finds a word or faults, a fault is what halts. -/
theorem halted_iff_error (line : OddLine program n)
    (ends : EndsLast false after.console after.results)
    (finds : ∀ result ∈ after.results, Machine.FindsWord program result) :
    after.console.halted = true ↔ ∃ fault, .error fault ∈ after.results := by
  rw [ends.halted_iff]
  constructor
  · rintro (never | ⟨result, member, ended⟩)
    · cases never
    · obtain ⟨fault, rfl⟩ := ((finds result member).ends_iff line).mp ended
      exact ⟨fault, member⟩
  · rintro ⟨fault, member⟩
    exact .inr ⟨_, member, rfl⟩

theorem passesMarker (line : OddLine program n) (at_word : console.machine.AtWord program 0)
    (running : console.halted = false)
    (kept : ∀ turn ∈ turns, turn.callback.isRestart = false)
    (attended : (Recorder.start console).attend patience turns = some after) :
    after.PassesMarker program n := by
  obtain ⟨tells, leave, ends⟩ := attend_run kept attended
  rw [running] at ends
  have first : ∀ result ∈ after.results.take (n + 1), Machine.FindsWord program result := by
    rw [tells.results]
    exact at_word.finds (fun j before => line.keepsLine_before (by omega)) leave (Nat.zero_le _)
  constructor
  case unmarked => exact fun result member => (first result member).ne_marker line
  case goes_on =>
    intro few
    rw [List.take_of_length_le few] at first
    exact halted_iff_error line ends first
  case behind =>
    intro stays
    have straight := line.keepsLine stays
    have all : ∀ result ∈ after.results.take after.results.length,
        Machine.FindsWord program result := by
      rw [tells.results]
      exact at_word.finds (fun j _ => straight j) leave (Nat.zero_le _)
    rw [List.take_length] at all
    have halts := halted_iff_error line ends all
    refine ⟨fun result member => (all result member).ne_marker line, halts, fun many => ?_⟩
    by_contra going
    have through : ∀ result ∈ console.machine.results (after.operations console.rom),
        ∃ cycle, result = .ok cycle := by
      rw [← tells.results]
      intro result member
      cases result with
      | error fault => exact absurd (halts.mpr ⟨fault, member⟩) going
      | ok cycle => exact ⟨cycle, rfl⟩
    have most := at_word.length_le straight leave through (Nat.zero_le _)
    rw [← tells.results] at most
    omega

end Recorder

/-- A program of odd length whose whole words keep to a straight line, loaded into a new machine.
The fetch at its last byte finds that byte and the first one of the halt marker, the next one finds
`FD00`, and all further ones find zeros. So however cycles, ticks and keys follow one another, if
none has faulted before, the first fetch past the last byte does not find the halt marker; where the
joined word does not lead elsewhere, cycles go on to the end of memory, and the fetch there faults.
A console with this program, by itself or by hand and whatever it is called for short of a restart,
is not halted behind the last byte, but by a fault alone. -/
theorem OddLine.marker_missed {program : List UInt8} {n : Nat} (line : OddLine program n)
    (rate : UInt32) (random : RandomSource) :
    (Memory.wordAt (program ++ Memory.haltMarker) n = joined program n ∧
      Memory.wordAt (program ++ Memory.haltMarker) (n + 1) = 0xFD00 ∧
      ∀ k, n + 1 < k → Memory.wordAt (program ++ Memory.haltMarker) k = 0) ∧
    ∃ start, (Machine.powerOn rate random).load program =
        ⟨.ok (), start, [.programLoaded program.length]⟩ ∧
      (∀ operations : List Operation, (∀ operation ∈ operations, operation.LeavesProgram) →
        (∀ result ∈ start.results operations, ∃ cycle, result = .ok cycle) →
        start.PassesMarker program n operations) ∧
      ∀ (scale : Nat) (byHand : Bool) (patience : Nat) (turns : List Turn) (after : Recorder),
        (∀ turn ∈ turns, turn.callback.isRestart = false) →
        (Recorder.start (Settings.boot ⟨rate, scale, program, byHand⟩ random)).attend patience
          turns = some after →
        after.PassesMarker program n := by
  have room : program.length ≤ 3582 := Nat.le_succ_of_le line.fits
  obtain ⟨start, loaded, at_word⟩ := Machine.load_atWord_of_room room rate random
  refine ⟨⟨line.wordAt_joined, line.wordAt_marker, fun k => line.wordAt_behind⟩, start, loaded,
    fun operations leave through => ?machine, fun scale byHand patience turns after kept attended =>
      ?console⟩
  case machine => exact Machine.passesMarker line at_word leave through
  case console =>
    have booted : (Settings.boot ⟨rate, scale, program, byHand⟩ random).machine = start :=
      congrArg Outcome.machine loaded
    exact Recorder.passesMarker line (booted ▸ at_word) rfl kept attended

namespace OddLine

/-- A program that loads a register and ends in the first half of such an instruction. -/
def cutShort : List UInt8 := [0x60, 0x07, 0x60]

theorem cutShort_line : OddLine cutShort 1 where
  length := rfl
  fits := by decide
  unmarked := by decide
  straight := by decide

theorem cutShort_steps {start : Machine}
    (loaded : (Machine.powerOn 500 (.constant 0)).load cutShort =
      ⟨.ok (), start, [.programLoaded 3]⟩) :
    start.step.result = .ok (.executed (.loadByte 0 0x07)) ∧
      start.step.machine.step.result = .ok (.executed (.loadByte 0 0x0E)) := by
  have machine : start = ((Machine.powerOn 500 (.constant 0)).load cutShort).machine := by
    rw [loaded]
  rw [machine]
  constructor
  · apply Machine.ok_of_toOption
    decide +kernel
  · apply Machine.ok_of_toOption
    decide +kernel

/-- Its last byte is taken for a whole instruction, whose operand is the first byte of the marker.
Its console goes on behind that. -/
theorem cutShort_executes : OddLine cutShort 1 ∧
    ∃ start, (Machine.powerOn 500 (.constant 0)).load cutShort =
        ⟨.ok (), start, [.programLoaded 3]⟩ ∧
      start.results [.step, .step] =
        [.ok (.executed (.loadByte 0 0x07)), .ok (.executed (.loadByte 0 0x0E))] ∧
      (Settings.boot ⟨500, 1, cutShort, false⟩ (.constant 0)).runCycle.1.runCycle.1.halted =
        false := by
  obtain ⟨start, loaded, _⟩ :=
    Machine.load_atWord_of_room cutShort_line.fits.step 500 (.constant 0)
  obtain ⟨first, second⟩ := cutShort_steps loaded
  refine ⟨cutShort_line, start, loaded, ?_, by decide +kernel⟩
  rw [Machine.results_step, Machine.results_step, Machine.results_nil, first, second]

/-- A key and a tick in between do not bring the marker about, nor does a console find it. -/
theorem cutShort_passes : OddLine cutShort 1 ∧
    ∃ start, (Machine.powerOn 500 (.constant 0)).load cutShort =
        ⟨.ok (), start, [.programLoaded 3]⟩ ∧
      (start.run [.step, .input ⟨0x20⟩, .tick]).step.result ≠ .ok (.decodeFault 0x0EFD) ∧
      ∃ after, (Recorder.start (Settings.boot ⟨500, 1, cutShort, false⟩ (.constant 0))).attend 2
          [⟨4000000, .aboutToWait⟩] = some after ∧
        after.results.length = 2 ∧ after.console.halted = false ∧
        ¬ ∃ fault, .error fault ∈ after.results := by
  obtain ⟨_, start, loaded, machines, consoles⟩ := marker_missed cutShort_line 500 (.constant 0)
  have leave : ∀ operation ∈ [Operation.step, .input ⟨0x20⟩, .tick], operation.LeavesProgram := by
    simp [Operation.LeavesProgram]
  have one : start.results [.step, .input ⟨0x20⟩, .tick] = [.ok (.executed (.loadByte 0 0x07))] :=
    congrArg (fun result => [result]) (cutShort_steps loaded).1
  have passes := machines _ leave (by simp [one])
  have ran : ((Recorder.start (Settings.boot ⟨500, 1, cutShort, false⟩ (.constant 0))).attend 2
      [⟨4000000, .aboutToWait⟩]).map (fun after => (after.results.length, after.console.halted)) =
        some (2, false) := by
    decide +kernel
  obtain ⟨after, attended, same⟩ := Option.map_eq_some_iff.mp ran
  simp only [Prod.mk.injEq] at same
  obtain ⟨length, running⟩ := same
  have passed := consoles 1 false 2 _ after (by decide) attended
  have halts := passed.goes_on (by omega)
  refine ⟨cutShort_line, start, loaded, ?_, after, attended, length, running, ?_⟩
  · exact (passes.joins (by simp [one])).2.2
  · rw [← halts, running]
    exact Bool.false_ne_true

end OddLine
end Chip8
