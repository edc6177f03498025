import Chip8.Memory

/-!
# Memory, byte by byte

What a word read from memory is in terms of two bytes, and when ranges of memory can be read and
written.
-/
namespace Chip8.Memory

/-- The two bytes from an address on are in memory and form a word, high byte first. -/
def HoldsWord (memory : Memory) (address : Nat) (word : UInt16) : Prop :=
  ∃ inside : address + 1 < size,
    word.toNat = 256 * memory.bytes[address].toNat + memory.bytes[address + 1].toNat

/-- Memory holds one word at an address. -/
theorem HoldsWord.unique {memory : Memory} {address : Nat} {word other : UInt16}
    (held : memory.HoldsWord address word) (too : memory.HoldsWord address other) :
    word = other := by
  obtain ⟨_, sum⟩ := held
  obtain ⟨_, same⟩ := too
  exact UInt16.toNat_inj.mp (sum.trans same.symm)

theorem read_ok {memory : Memory} {address : Nat} (inside : address < size) :
    memory.read address = .ok memory.bytes[address] := by
  simp [read, inside, Vector.get]

theorem read_error {memory : Memory} {address : Nat} (outside : size ≤ address) :
    memory.read address = .error (.addressOutOfBounds address) := by
  simp [read, Nat.not_lt.mpr outside]

theorem toNat_join (high low : UInt8) :
    (high.toUInt16 <<< 8 ||| low.toUInt16).toNat = 256 * high.toNat + low.toNat := by
  have highBound := high.toNat_lt
  have shifted : (high.toUInt16 <<< 8).toNat = high.toNat <<< 8 := by
    simp only [UInt16.toNat_shiftLeft, UInt8.toNat_toUInt16, UInt16.reduceToNat, Nat.reduceMod,
      Nat.shiftLeft_eq, Nat.reducePow]
    omega
  rw [UInt16.toNat_or, shifted, UInt8.toNat_toUInt16,
    ← Nat.shiftLeft_add_eq_or_of_lt low.toNat_lt, Nat.shiftLeft_eq]
  omega

theorem readWord_ok {memory : Memory} {address : Nat} (inside : address + 1 < size) :
    memory.readWord address =
      .ok (memory.bytes[address].toUInt16 <<< 8 ||| memory.bytes[address + 1].toUInt16) := by
  simp only [readWord, read_ok (Nat.lt_of_succ_lt inside), read_ok inside, bind, Except.bind]
  rfl

/-- A word that memory does not hold whole is a fault at the first of its bytes outside. -/
theorem readWord_error {memory : Memory} {address : Nat} (outside : size ≤ address + 1) :
    memory.readWord address = .error (.addressOutOfBounds (max address size)) := by
  by_cases last : address < size
  · have edge : address + 1 = max address size := by omega
    simp only [readWord, read_ok last, read_error outside, bind, Except.bind]
    exact congrArg (Except.error ∘ Fault.addressOutOfBounds) edge
  · have beyond : address = max address size := by omega
    simp only [readWord, read_error (Nat.le_of_not_lt last), bind, Except.bind]
    exact congrArg (Except.error ∘ Fault.addressOutOfBounds) beyond

theorem readWord_eq_ok_iff {memory : Memory} {address : Nat} {word : UInt16} :
    memory.readWord address = .ok word ↔ memory.HoldsWord address word := by
  by_cases inside : address + 1 < size
  · rw [readWord_ok inside]
    constructor
    · intro h
      cases h
      exact ⟨inside, toNat_join _ _⟩
    · rintro ⟨_, h⟩
      exact congrArg Except.ok (UInt16.toNat_inj.mp ((toNat_join _ _).trans h.symm))
  · rw [readWord_error (Nat.le_of_not_lt inside)]
    constructor
    · intro h
      cases h
    · rintro ⟨contradictory, _⟩
      exact absurd contradictory inside

theorem readRange_error_iff {memory : Memory} {start length : Nat} {fault : Fault} :
    memory.readRange start length = .error fault ↔
      size < start + length ∧ fault = rangeFault start length := by
  unfold readRange
  split
  · simp; omega
  · simp [eq_comm]; omega

theorem length_of_readRange {memory : Memory} {start length : Nat} {bytes : List UInt8}
    (h : memory.readRange start length = .ok bytes) :
    bytes.length = length ∧ start + length ≤ size := by
  unfold readRange at h
  split at h
  next inside =>
    cases h
    exact ⟨List.length_ofFn, inside⟩
  · cases h

theorem writeRange_error_iff {memory : Memory} {start : Nat} {bytes : List UInt8}
    {fault : Fault} :
    memory.writeRange start bytes = .error fault ↔
      size < start + bytes.length ∧ fault = rangeFault start bytes.length := by
  unfold writeRange
  split
  · simp; omega
  · simp [eq_comm]; omega

/-- Storing two blocks behind one another is storing them one after the other. -/
theorem store_append (memory : Memory) (start : Nat) (first second : List UInt8) :
    memory.store start (first ++ second) =
      (memory.store start first).store (start + first.length) second := by
  induction first generalizing memory start with
  | nil => rfl
  | cons byte rest ih =>
    have next : start + 1 + rest.length = start + (byte :: rest).length := by
      rw [List.length_cons]
      omega
    rw [List.cons_append, store, ih, next]
    rfl

/-- A byte after bytes were stored: the new one where they went and the old one elsewhere. -/
theorem getElem_store (memory : Memory) (start : Nat) (bytes : List UInt8) (i : Nat)
    (inside : i < size) :
    (memory.store start bytes).bytes[i] =
      if start ≤ i then bytes.getD (i - start) memory.bytes[i] else memory.bytes[i] := by
  induction bytes generalizing memory start with
  | nil => simp [store]
  | cons byte rest ih =>
    rw [store, ih]
    by_cases first : start = i
    · subst first
      rw [if_neg (Nat.not_succ_le_self start), if_pos (Nat.le_refl start)]
      simp
    · by_cases later : start ≤ i
      · have next : start + 1 ≤ i := by omega
        have shift : i - start = i - (start + 1) + 1 := by omega
        simp [next, later, shift, Vector.getElem_setIfInBounds_ne, first]
      · have next : ¬ start + 1 ≤ i := by omega
        simp [next, later, Vector.getElem_setIfInBounds_ne, first]

/-! ## Blocks of bytes -/

/-- The bytes from an address on are the listed ones. -/
def HoldsBlock (memory : Memory) (start : Nat) (bytes : List UInt8) : Prop :=
  ∀ j (inside : j < bytes.length), memory.read (start + j) = .ok bytes[j]

section Blocks

variable {memory after : Memory} {start : Nat} {bytes : List UInt8}

/-- A block made of two is there when both are, one behind the other. -/
theorem HoldsBlock.split {first second : List UInt8}
    (held : memory.HoldsBlock start (first ++ second)) :
    memory.HoldsBlock start first ∧ memory.HoldsBlock (start + first.length) second := by
  have length : (first ++ second).length = first.length + second.length := List.length_append
  constructor
  · intro j inside
    rw [held j (by omega), List.getElem_append_left inside]
  · intro j inside
    rw [Nat.add_assoc, held _ (by omega), List.getElem_append_right (Nat.le_add_right _ _)]
    simp only [Nat.add_sub_cancel_left]

/-- A range inside memory is read as the bytes that it holds. -/
theorem exists_readRange (memory : Memory) {length : Nat} (fits : start + length ≤ size) :
    ∃ bytes, memory.readRange start length = .ok bytes ∧ bytes.length = length ∧
      memory.HoldsBlock start bytes := by
  refine ⟨_, dif_pos fits, List.length_ofFn, fun j inside => ?_⟩
  have small : start + j < size := by
    rw [List.length_ofFn] at inside
    omega
  rw [read_ok small, List.getElem_ofFn]
  rfl

theorem writeRange_eq_ok_iff :
    memory.writeRange start bytes = .ok after ↔
      start + bytes.length ≤ size ∧ memory.store start bytes = after := by
  unfold writeRange
  split
  next fits => simp [fits]
  next beyond => simp [beyond]

/-- A block that was written is there. -/
theorem holdsBlock_of_writeRange (wrote : memory.writeRange start bytes = .ok after) :
    after.HoldsBlock start bytes := by
  obtain ⟨fits, rfl⟩ := writeRange_eq_ok_iff.mp wrote
  intro j inside
  have small : start + j < size := by omega
  rw [read_ok small, getElem_store, if_pos (Nat.le_add_right start j), Nat.add_sub_cancel_left,
    List.getD_eq_getElem?_getD, List.getElem?_eq_getElem inside, Option.getD_some]

/-- A byte beside a block that was written is what it was. -/
theorem read_of_writeRange (wrote : memory.writeRange start bytes = .ok after) {address : Nat}
    (beside : address < start ∨ start + bytes.length ≤ address) :
    after.read address = memory.read address := by
  obtain ⟨_, rfl⟩ := writeRange_eq_ok_iff.mp wrote
  by_cases small : address < size
  · rw [read_ok small, read_ok small, getElem_store]
    split
    next behind =>
      have past : bytes.length ≤ address - start := by omega
      rw [List.getD_eq_getElem?_getD, List.getElem?_eq_none past, Option.getD_none]
    · rfl
  · rw [read_error (Nat.le_of_not_lt small), read_error (Nat.le_of_not_lt small)]

/-- A block that memory holds is what is read there. -/
theorem HoldsBlock.readRange (held : memory.HoldsBlock start bytes) (some : 0 < bytes.length) :
    memory.readRange start bytes.length = .ok bytes := by
  have readable : ∀ j, j < bytes.length → start + j < size := fun j inside =>
    Nat.lt_of_not_le fun outside => nomatch (read_error outside).symm.trans (held j inside)
  have fits : start + bytes.length ≤ size := by
    have last := readable (bytes.length - 1) (Nat.sub_one_lt_of_lt some)
    omega
  rw [Memory.readRange, dif_pos fits]
  refine congrArg Except.ok (List.ext_getElem List.length_ofFn fun j _ inside => ?_)
  rw [List.getElem_ofFn]
  exact Except.ok.inj ((read_ok (readable j inside)).symm.trans (held j inside))

end Blocks

end Chip8.Memory
