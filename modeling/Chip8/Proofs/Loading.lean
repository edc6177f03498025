import Chip8.Proofs.Bare.Agreement

/-!
# Loading

A program goes to its place with the halt marker behind it, if both fit into memory, and otherwise
nothing happens at all. Nothing but these bytes changes, at any moment of a run. So after any number
of programs every byte is the one that the last of them to cover it has put there, and bytes behind
a shorter program are still those of a longer one before it.
-/
namespace Chip8

/-! ## Bytes that are loaded -/

namespace Memory

variable {memory after : Memory} {program : List UInt8}

/-- The byte that loading a program puts at an address: one of the program or one of the two behind
it. A program that leaves no room for these two puts nothing anywhere. -/
def loadedByte? (program : List UInt8) (address : Nat) : Option UInt8 :=
  if program.length ≤ 3582 ∧ 0x200 ≤ address then
    (program ++ [0x0E, 0xFD])[address - 0x200]?
  else none

/-- The byte that the last of some programs to cover an address has put there. -/
def lastLoaded? (programs : List (List UInt8)) (address : Nat) : Option UInt8 :=
  programs.reverse.findSome? fun program => loadedByte? program address

/-- A program that fits is written with the halt marker behind it. -/
theorem load_of_fits (memory : Memory) (fits : program.length ≤ 3582) :
    memory.load program = memory.writeRange programStart (program ++ haltMarker) := by
  have accepted : program.length ≤ maxProgram := fits
  have room : programStart + (program ++ haltMarker).length ≤ size := by
    rw [List.length_append]
    exact Nat.add_le_add_left (Nat.add_le_add_right fits _) _
  rw [load, if_pos accepted, writeRange, if_pos room]

theorem load_of_large (memory : Memory) (large : 3582 < program.length) :
    memory.load program = .error (.programTooLarge program.length 3582) :=
  if_neg (Nat.not_le.mpr large)

/-- A byte after a program was put into memory: the one that was put there, or else the old one. -/
theorem read_of_load (loaded : memory.load program = .ok after) (address : Nat) :
    after.read address = (loadedByte? program address).elim (memory.read address) .ok := by
  have fits : program.length ≤ 3582 := Nat.le_of_not_lt fun large =>
    nomatch (load_of_large memory large).symm.trans loaded
  rw [load_of_fits memory fits] at loaded
  by_cases inside : 0x200 ≤ address ∧ address - 0x200 < (program ++ haltMarker).length
  · obtain ⟨behind, small⟩ := inside
    have held := holdsBlock_of_writeRange loaded _ small
    rw [Nat.add_sub_cancel' behind] at held
    have put : loadedByte? program address = some (program ++ haltMarker)[address - 0x200] := by
      rw [loadedByte?, if_pos ⟨fits, behind⟩]
      exact List.getElem?_eq_getElem small
    rw [held, put]
    rfl
  · have beside : address < 0x200 ∨ 0x200 + (program ++ haltMarker).length ≤ address := by omega
    have nothing : loadedByte? program address = none := by
      unfold loadedByte?
      split
      next covered =>
        exact List.getElem?_eq_none (Nat.le_of_not_lt fun small => inside ⟨covered.2, small⟩)
      · rfl
    rw [read_of_writeRange loaded beside, nothing]
    rfl

/-- The last program comes first when it is asked who covers an address. -/
theorem lastLoaded?_cons (program : List UInt8) (rest : List (List UInt8)) (address : Nat) :
    lastLoaded? (program :: rest) address =
      (lastLoaded? rest address).or (loadedByte? program address) := by
  rw [lastLoaded?, List.reverse_cons, List.findSome?_append, List.findSome?_singleton]
  rfl

end Memory

/-! ## Machines -/

namespace Machine

variable {machine : Machine} {program : List UInt8}

/-- Loading a program has led from one machine to another: the program and the halt marker are in
memory, the other bytes are what they were, and so is everything but memory. -/
structure Loads (machine after : Machine) (program : List UInt8) : Prop where
  placed : after.memory.HoldsBlock 0x200 program
  marked : after.memory.HoldsBlock (0x200 + program.length) [0x0E, 0xFD]
  beside : ∀ address, address < 0x200 ∨ 0x200 + program.length + 2 ≤ address →
    after.memory.read address = machine.memory.read address
  others : after = { machine with memory := after.memory }

theorem load_of_large (machine : Machine) (large : 3582 < program.length) :
    machine.load program = ⟨.error (.programTooLarge program.length 3582), machine, []⟩ := by
  rw [load, Memory.load_of_large _ large]

theorem load_of_fits (machine : Machine) (fits : program.length ≤ 3582) :
    ∃ memory, machine.memory.load program = .ok memory ∧
      machine.load program =
        ⟨.ok (), { machine with memory := memory }, [.programLoaded program.length]⟩ := by
  have loaded : machine.memory.load program = .ok _ := if_pos fits
  refine ⟨_, loaded, ?_⟩
  rw [load, loaded]

theorem loads_of_load {memory : Memory} (fits : program.length ≤ 3582)
    (loaded : machine.memory.load program = .ok memory) :
    machine.Loads { machine with memory := memory } program := by
  rw [Memory.load_of_fits _ fits] at loaded
  obtain ⟨placed, marked⟩ := (Memory.holdsBlock_of_writeRange loaded).split
  refine ⟨placed, marked, fun address beside => ?_, rfl⟩
  refine Memory.read_of_writeRange loaded (beside.imp_right fun past => ?_)
  rw [List.length_append]
  exact past

/-- A byte after loading, whether the program was accepted or not. -/
theorem read_load (machine : Machine) (program : List UInt8) (address : Nat) :
    (machine.load program).machine.memory.read address =
      (Memory.loadedByte? program address).elim (machine.memory.read address) .ok := by
  by_cases fits : program.length ≤ 3582
  · obtain ⟨memory, loaded, same⟩ := load_of_fits machine fits
    rw [same]
    exact Memory.read_of_load loaded address
  · have nothing : Memory.loadedByte? program address = none := if_neg fun both => fits both.1
    rw [load_of_large machine (Nat.lt_of_not_le fits), nothing]
    rfl

/-- Any number of programs leave everything but memory as it is. -/
theorem run_loads_eq (machine : Machine) (programs : List (List UInt8)) :
    ∃ memory, machine.run (programs.map .load) = { machine with memory := memory } := by
  induction programs generalizing machine with
  | nil => exact ⟨machine.memory, rfl⟩
  | cons program rest ih =>
    obtain ⟨memory, loaded⟩ := load_eq machine program
    obtain ⟨last, same⟩ := ih (machine.load program).machine
    refine ⟨last, same.trans ?_⟩
    rw [loaded]

/-- After any number of programs a byte is the last one that was put there, or else the old one. -/
theorem read_run_loads (machine : Machine) (programs : List (List UInt8)) (address : Nat) :
    (machine.run (programs.map .load)).memory.read address =
      (Memory.lastLoaded? programs address).elim (machine.memory.read address) .ok := by
  induction programs generalizing machine with
  | nil => rfl
  | cons program rest ih =>
    have later := ih (machine.load program).machine
    rw [read_load] at later
    rw [Memory.lastLoaded?_cons]
    refine later.trans ?_
    cases Memory.lastLoaded? rest address <;> rfl

/-- Loading on any machine, whatever it is doing. A program of more than 3582 bytes is refused, and
then nothing has changed and nothing is reported. Any other is put into memory with the halt marker
behind it, and changes nothing else. Copying the two blocks into memory in place comes to the same,
and never to a place outside of it. And after any number of programs one after another a byte is the
one that the last accepted program to cover it has put there, or what it was if none covers it, and
all but memory is what it was. -/
theorem load_exact (machine : Machine) :
    (∀ program : List UInt8, 3582 < program.length →
      machine.load program = ⟨.error (.programTooLarge program.length 3582), machine, []⟩) ∧
    (∀ program : List UInt8, program.length ≤ 3582 → ∃ after,
      machine.load program = ⟨.ok (), after, [.programLoaded program.length]⟩ ∧
      machine.Loads after program) ∧
    (∀ program events, Bare.answer (Bare.load program) (Bare.ofMachine machine) events =
      some ((machine.load program).result, Bare.ofMachine (machine.load program).machine,
        events ++ (machine.load program).events)) ∧
    ∀ programs after, machine.run (programs.map .load) = after →
      after = { machine with memory := after.memory } ∧
      ∀ address, after.memory.read address =
        (Memory.lastLoaded? programs address).elim (machine.memory.read address) .ok := by
  refine ⟨fun _ => load_of_large machine, ?fits, ?bare, ?loads⟩
  case fits =>
    intro program fits
    obtain ⟨memory, loaded, same⟩ := load_of_fits machine fits
    exact ⟨_, same, loads_of_load fits loaded⟩
  case bare => exact fun program events => Bare.answer_load events program
  case loads =>
    rintro programs _ rfl
    obtain ⟨memory, same⟩ := run_loads_eq machine programs
    refine ⟨?_, read_run_loads machine programs⟩
    rw [same]

def waitingMidway : Machine :=
  (powerOn 500 (.constant 0)).run [.load [0xF0, 0x0A], .step]

/-- The largest program, one that is a byte too large, and a short one. -/
def threePrograms : List (List UInt8) :=
  [.replicate 3582 0xAA, .replicate 3583 0xBB, [0x11]]

/-- Behind the short program and its halt marker the largest one is left, up to its own halt marker
at the end of memory, and the machine still waits. -/
theorem threePrograms_loaded : ∃ after, waitingMidway.run (threePrograms.map .load) = after ∧
    after.keyWait = some 0 ∧ after.counter = 0x202 ∧ after.memory.read 0x202 = .ok 0xFD ∧
    after.memory.read 0x203 = .ok 0xAA ∧ after.memory.read 0xFFF = .ok 0xFD ∧
    (waitingMidway.load (.replicate 3583 0xBB)).result = .error (.programTooLarge 3583 3582) := by
  obtain ⟨after, ran⟩ : ∃ after, waitingMidway.run (threePrograms.map .load) = after := ⟨_, rfl⟩
  obtain ⟨refused, _, _, loads⟩ := load_exact waitingMidway
  obtain ⟨others, bytes⟩ := loads threePrograms after ran
  have kept : (after.keyWait, after.counter) = (waitingMidway.keyWait, waitingMidway.counter) := by
    rw [others]
  have before : (waitingMidway.keyWait, waitingMidway.counter) = (some 0, 0x202) := by
    decide +kernel
  simp only [before, Prod.mk.injEq] at kept
  have marked : Memory.lastLoaded? threePrograms 0x202 = some 0xFD := by decide +kernel
  have left : Memory.lastLoaded? threePrograms 0x203 = some 0xAA := by decide +kernel
  have last : Memory.lastLoaded? threePrograms 0xFFF = some 0xFD := by decide +kernel
  have large : 3582 < (List.replicate 3583 (0xBB : UInt8)).length := by
    rw [List.length_replicate]
    decide
  refine ⟨after, ran, kept.1, kept.2, ?_, ?_, ?_, ?_⟩
  · rw [bytes, marked]
    rfl
  · rw [bytes, left]
    rfl
  · rw [bytes, last]
    rfl
  · rw [refused _ large, List.length_replicate]

end Machine
end Chip8
