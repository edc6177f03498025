import Chip8.Proofs.Bare.Agreement

/-!
# Accesses to memory

Reading a range, writing one and reading a word, for all addresses and lengths of 64 bits. All of
them go by single bytes: they succeed where every byte is in memory, they give or change these bytes
and no others, and elsewhere they are faults that name a byte outside. Only the address behind a
range has to be a number of 64 bits as well: where it is none, there is neither success nor a fault
but no answer at all, and no answer to any other access before or after it either.
-/
namespace Chip8

namespace Memory

/-- What becomes of an access to `length` bytes from `start` on, by where the range ends. -/
structure RangeAccess {α : Type} (start length : Nat) (Right : α → Prop)
    (outcome : Option (Except Fault α)) : Prop where
  inside : start + length ≤ 4096 → ∃ value, outcome = some (.ok value) ∧ Right value
  beyond : 4096 < start + length → start + length < 2 ^ 64 →
    outcome = some (.error (.addressOutOfBounds (max (start + length - 1) start)))
  unanswered : 2 ^ 64 ≤ start + length → outcome = none

/-- What becomes of reading a word: its two bytes, the high one first, or a fault. -/
structure WordAccess (memory : Memory) (address : Nat) (outcome : Except Fault UInt16) :
    Prop where
  inside : address ≤ 4094 → ∃ high low word, outcome = .ok word ∧
    memory.read address = .ok high ∧ memory.read (address + 1) = .ok low ∧
    word.toNat = 256 * high.toNat + low.toNat
  beyond : 4094 < address → outcome = .error (.addressOutOfBounds (max address 4096))

/-- The address behind the range of an access is no 64-bit number. -/
def Access.Overflows : Access → Prop
  | .slice start length => 2 ^ 64 ≤ start.toNat + length.toNat
  | .overwrite start bytes => 2 ^ 64 ≤ start.toNat + bytes.length
  | _ => False

variable (memory : Memory)

/-! ## Single accesses -/

section Ranges

variable {start : UInt64} {length : Nat}

theorem spans_iff : spans start length = true ↔ start.toNat + length < 2 ^ 64 :=
  decide_eq_true_iff

theorem spans_eq_false_iff : spans start length = false ↔ 2 ^ 64 ≤ start.toNat + length := by
  rw [← Bool.not_eq_true, spans_iff, Nat.not_lt]

/-- An access that is right by its range is so as well where the range's end is looked at first. -/
theorem rangeAccess_of_spans {α : Type} {Right : α → Prop} {outcome : Except Fault α}
    (inside : start.toNat + length ≤ size → ∃ value, outcome = .ok value ∧ Right value)
    (beyond : size < start.toNat + length → outcome = .error (rangeFault start.toNat length)) :
    RangeAccess start.toNat length Right
      (if spans start length then some outcome else none) := by
  constructor
  · intro fits
    obtain ⟨value, rfl, right⟩ := inside fits
    have small : start.toNat + length < 2 ^ 64 := by omega
    exact ⟨value, if_pos (spans_iff.mpr small), right⟩
  · intro outside small
    rw [if_pos (spans_iff.mpr small), beyond outside, rangeFault]
  · intro large
    rw [spans_eq_false_iff.mpr large]
    rfl

end Ranges

theorem slice?_access (start length : UInt64) :
    RangeAccess start.toNat length.toNat
      (fun bytes => bytes.length = length.toNat ∧ memory.HoldsBlock start.toNat bytes)
      (memory.slice? start length) :=
  rangeAccess_of_spans (exists_readRange memory)
    fun outside => readRange_error_iff.mpr ⟨outside, rfl⟩

theorem overwrite?_access (start : UInt64) (bytes : List UInt8) :
    RangeAccess start.toNat bytes.length
      (fun after : Memory => after.HoldsBlock start.toNat bytes ∧
        ∀ address, address < start.toNat ∨ start.toNat + bytes.length ≤ address →
          after.read address = memory.read address)
      (memory.overwrite? start bytes) := by
  refine rangeAccess_of_spans (fun fits => ?_) fun outside => ?_
  · have wrote : memory.writeRange start.toNat bytes = .ok (memory.store start.toNat bytes) :=
      if_pos fits
    exact ⟨_, wrote, holdsBlock_of_writeRange wrote, fun _ beside => read_of_writeRange wrote beside⟩
  · exact writeRange_error_iff.mpr ⟨outside, rfl⟩

theorem readWord_access (address : Nat) :
    memory.WordAccess address (memory.readWord address) := by
  constructor
  · intro fits
    have inside : address + 1 < size := Nat.lt_succ_of_le (Nat.succ_le_succ fits)
    exact ⟨_, _, _, readWord_ok inside, read_ok (Nat.lt_of_succ_lt inside), read_ok inside,
      toNat_join _ _⟩
  · exact fun outside => readWord_error (Nat.succ_le_succ outside)

/-! ## Accesses one after another -/

theorem eq_of_changed_error {outcome : Except Fault Memory} {fault : Fault} {after : Memory}
    (failed : memory.changed outcome = (.error fault, after)) : after = memory := by
  cases outcome with
  | ok _ => cases failed
  | error _ =>
    cases failed
    rfl

/-- An access that fails leaves memory as it was. -/
theorem serve?_error {access : Access} {fault : Fault} {after : Memory}
    (failed : memory.serve? access = some (.error fault, after)) : after = memory := by
  cases access with
  | load program => exact eq_of_changed_error memory (Option.some.inj failed)
  | read address | readWord address => exact (congrArg Prod.snd (Option.some.inj failed)).symm
  | slice start length =>
    obtain ⟨_, _, same⟩ := Option.map_eq_some_iff.mp failed
    exact (congrArg Prod.snd same).symm
  | overwrite start bytes =>
    obtain ⟨_, _, same⟩ := Option.map_eq_some_iff.mp failed
    exact eq_of_changed_error memory same
  | renew => cases failed

theorem serve?_eq_none_iff {access : Access} :
    memory.serve? access = none ↔ access.Overflows := by
  cases access with
  | load | read | readWord | renew => exact iff_of_false (Option.some_ne_none _) id
  | slice start length =>
    rw [serve?, Option.map_eq_none_iff, slice?, Access.Overflows, ← spans_eq_false_iff]
    simp
  | overwrite start bytes =>
    rw [serve?, Option.map_eq_none_iff, overwrite?, Access.Overflows, ← spans_eq_false_iff]
    simp

theorem replies?_eq_none_iff (accesses : List Access) :
    memory.replies? accesses = none ↔ ∃ access ∈ accesses, access.Overflows := by
  induction accesses generalizing memory with
  | nil => simp [replies?]
  | cons access rest ih =>
    simp only [List.mem_cons, exists_eq_or_imp, replies?]
    rw [← memory.serve?_eq_none_iff]
    cases memory.serve? access with
    | none => simp
    | some reply =>
      rw [← ih reply.2]
      cases later : reply.2.replies? rest <;> simp [later]

end Memory

/-! ## In place -/

namespace Bare

def overwrite (start : Nat) (bytes : List UInt8) : Work Unit := do
  let stop ← rangeEnd start bytes.length
  writeRange start stop bytes

def serveAccess : Memory.Access → Work Memory.Access.Value
  | .load program => do
    load program
    return .done
  | .read address => return .byte (← readByte address.toNat)
  | .readWord address => return .word (← readWord address.toNat)
  | .slice start length => return .bytes (← readRange start.toNat length.toNat)
  | .overwrite start bytes => do
    overwrite start.toNat bytes
    return .done
  | .renew => do
    setMemory Memory.initial.bytes
    return .done

variable (machine : Machine) (events : List Event)

theorem answer_rangeEnd_of_large {start length : Nat}
    (large : 0x10000000000000000 ≤ start + length) :
    answer (rangeEnd start length) (ofMachine machine) events = none := by
  simp only [rangeEnd, size?_eq_none large, answer_bind, answer_liftM_none]

theorem answer_slice (start length : UInt64) :
    answer (readRange start.toNat length.toNat) (ofMachine machine) events =
      (machine.memory.slice? start length).map fun result =>
        (result, ofMachine machine, events) := by
  rw [Memory.slice?]
  cases spanned : Memory.spans start length.toNat with
  | true =>
    rw [answer_readRange machine events (Memory.spans_iff.mp spanned)]
    rfl
  | false =>
    have large := Memory.spans_eq_false_iff.mp spanned
    rw [readRange, answer_bind, answer_rangeEnd_of_large machine events large]
    rfl

theorem answer_overwrite (start : UInt64) (bytes : List UInt8) :
    answer (overwrite start.toNat bytes) (ofMachine machine) events =
      (machine.memory.overwrite? start bytes).map fun
        | .ok after => (.ok (), ofMachine { machine with memory := after }, events)
        | .error fault => (.error fault, ofMachine machine, events) := by
  rw [overwrite, answer_bind, Memory.overwrite?]
  cases spanned : Memory.spans start bytes.length with
  | true =>
    rw [answer_rangeEnd machine events (Memory.spans_iff.mp spanned), if_pos rfl, Option.map_some,
      Memory.writeRange]
    by_cases inside : start.toNat + bytes.length ≤ Memory.size
    · rw [if_pos inside, if_pos inside]
      exact answer_writeRange machine events inside
    · rw [if_neg inside, if_neg inside]
  | false =>
    have large := Memory.spans_eq_false_iff.mp spanned
    rw [answer_rangeEnd_of_large machine events large]
    rfl

/-- An access in place is answered as the access to memory is. -/
theorem answer_serveAccess (access : Memory.Access) :
    ∃ told, answer (serveAccess access) (ofMachine machine) events =
      (machine.memory.serve? access).map fun served =>
        (served.1, ofMachine { machine with memory := served.2 }, told) := by
  cases access with
  | load program =>
    refine ⟨events ++ (machine.load program).events, ?_⟩
    rw [serveAccess, answer_bind, answer_load, reported]
    cases loaded : machine.memory.load program with
    | ok after => simp [Memory.serve?, Memory.changed, Machine.load, loaded]
    | error fault => simp [Memory.serve?, Memory.changed, Machine.load, loaded]
  | read address =>
    refine ⟨events, ?_⟩
    rw [serveAccess, answer_bind, answer_readByte]
    cases found : machine.memory.read address.toNat <;> simp [Memory.serve?, found, Except.map]
  | readWord address =>
    refine ⟨events, ?_⟩
    rw [serveAccess, answer_bind, answer_readWord]
    cases found : machine.memory.readWord address.toNat <;> simp [Memory.serve?, found, Except.map]
  | slice start length =>
    refine ⟨events, ?_⟩
    rw [serveAccess, answer_bind, answer_slice]
    rcases found : machine.memory.slice? start length with _ | fault | bytes <;>
      simp [Memory.serve?, found, Except.map]
  | overwrite start bytes =>
    refine ⟨events, ?_⟩
    rw [serveAccess, answer_bind, answer_overwrite]
    rcases wrote : machine.memory.overwrite? start bytes with _ | fault | after <;>
      simp [Memory.serve?, Memory.changed, wrote]
  | renew => exact ⟨events, rfl⟩

theorem answers_serveAccess (accesses : List Memory.Access) :
    answers serveAccess (ofMachine machine) events accesses =
      (machine.memory.replies? accesses).map
        (List.map (Prod.map id fun after => ofMachine { machine with memory := after })) := by
  induction accesses generalizing machine events with
  | nil => rfl
  | cons access rest ih =>
    obtain ⟨told, served⟩ := answer_serveAccess machine events access
    rw [answers, Memory.replies?, served]
    cases machine.memory.serve? access with
    | none => rfl
    | some reply =>
      have later := ih { machine with memory := reply.2 } told
      simp only [Option.map_some, Option.bind_eq_bind, Option.bind_some, later]
      cases reply.2.replies? rest <;> rfl

end Bare

namespace Memory

/-- Every access, wherever it starts and however long it is: a range is read as the bytes that are
read one by one, and written so that these are the bytes written and all others stay; a word is two
bytes; what is not wholly in memory is a fault that names a byte outside, with memory as it was, or
has no answer if the address behind it is no 64-bit number. Such an access is the only one without
an answer, and any accesses of which one is such have no replies at all. In place they go on alike. -/
theorem accesses_exact (memory : Memory) :
    (∀ start length : UInt64, RangeAccess start.toNat length.toNat
      (fun bytes => bytes.length = length.toNat ∧ memory.HoldsBlock start.toNat bytes)
      (memory.slice? start length)) ∧
    (∀ (start : UInt64) (bytes : List UInt8), RangeAccess start.toNat bytes.length
      (fun after : Memory => after.HoldsBlock start.toNat bytes ∧
        ∀ address, address < start.toNat ∨ start.toNat + bytes.length ≤ address →
          after.read address = memory.read address)
      (memory.overwrite? start bytes)) ∧
    (∀ address, memory.WordAccess address (memory.readWord address)) ∧
    (∀ access fault after, memory.serve? access = some (.error fault, after) → after = memory) ∧
    (∀ accesses, memory.replies? accesses = none ↔ ∃ access ∈ accesses, access.Overflows) ∧
    ∀ (machine : Machine) events accesses,
      Bare.answers Bare.serveAccess (Bare.ofMachine { machine with memory := memory }) events
          accesses =
        (memory.replies? accesses).map
          (List.map (Prod.map id fun after => Bare.ofMachine { machine with memory := after })) :=
  ⟨slice?_access memory, overwrite?_access memory, readWord_access memory,
    fun _ _ _ failed => serve?_error memory failed, replies?_eq_none_iff memory,
    fun machine events => Bare.answers_serveAccess { machine with memory := memory } events⟩

/-- The halt marker at the end of memory is read as it was written, with nothing before it changed;
one byte further on it is refused, and memory is what it was. -/
theorem lastWord_overwritten :
    (∃ after, initial.overwrite? 0xFFE haltMarker = some (.ok after) ∧
      after.read 0xFFF = .ok 0xFD ∧ after.read 0xFFD = initial.read 0xFFD) ∧
    ∃ after, initial.serve? (.overwrite 0xFFF haltMarker) =
        some (.error (.addressOutOfBounds 0x1000), after) ∧ after = initial := by
  obtain ⟨_, writes, _, keeps, _⟩ := accesses_exact initial
  obtain ⟨after, wrote, held, kept⟩ := (writes 0xFFE haltMarker).inside (by decide)
  have refused : initial.serve? (.overwrite 0xFFF haltMarker) =
      some (.error (.addressOutOfBounds 0x1000), initial) := by
    rw [serve?, (writes 0xFFF haltMarker).beyond (by decide) (by decide)]
    rfl
  exact ⟨⟨after, wrote, held 1 (by decide), kept 0xFFD (.inl (by decide))⟩, _, refused,
    keeps _ _ _ refused⟩

/-- Two bytes from the last address of all on have no end that is an address, so asking for them is
not even a fault, and whoever asks for them has no reply to anything. -/
theorem lastAddress_unanswered :
    4096 < (0xFFFFFFFFFFFFFFFF : UInt64).toNat + (2 : UInt64).toNat ∧
      (¬ ∃ fault, initial.slice? 0xFFFFFFFFFFFFFFFF 2 = some (.error fault)) ∧
      initial.replies? [.slice 0xFFFFFFFFFFFFFFFF 2] = none := by
  have silent : initial.slice? 0xFFFFFFFFFFFFFFFF 2 = none := rfl
  refine ⟨by decide, ?_, rfl⟩
  rintro ⟨fault, failed⟩
  exact nomatch silent.symm.trans failed

end Memory
end Chip8
