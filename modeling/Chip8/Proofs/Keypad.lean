import Chip8.Keypad

/-!
# The lowest key

A key found as the lowest one is down and no lower one is; and one is found whenever any key is
down.
-/
namespace Chip8.Keypad

/-- A key is down and no lower one is. -/
structure IsLowest (keys : Keypad) (key : UInt8) : Prop where
  lt : key.toNat < 16
  down : keys.bits.toNat.testBit key.toNat = true
  least : ∀ lower < key.toNat, keys.bits.toNat.testBit lower = false

variable {keys : Keypad} {key : UInt8}

/-- The lowest key as a number. -/
theorem head?_pressed_iff {k : Nat} :
    keys.pressed.head? = some k ↔
      k < 16 ∧ keys.bits.toNat.testBit k = true ∧
        ∀ lower < k, keys.bits.toNat.testBit lower = false := by
  rw [pressed, List.head?_filter, List.find?_range_eq_some]
  simp [and_left_comm]

theorem lowest?_eq_some_iff : keys.lowest? = some key ↔ keys.IsLowest key := by
  rw [lowest?, Option.map_eq_some_iff]
  constructor
  · rintro ⟨k, first, rfl⟩
    obtain ⟨small, down, least⟩ := head?_pressed_iff.mp first
    have number : k.toUInt8.toNat = k := by
      rw [UInt8.toNat_ofNat']
      exact Nat.mod_eq_of_lt (by omega)
    exact ⟨by rwa [number], by rwa [number], by rwa [number]⟩
  · rintro ⟨small, down, least⟩
    exact ⟨key.toNat, head?_pressed_iff.mpr ⟨small, down, least⟩, UInt8.ofNat_toNat⟩

theorem lowest?_eq_none_iff : keys.lowest? = none ↔ keys = .empty := by
  have bound := keys.bits.toNat_lt
  rw [lowest?, Option.map_eq_none_iff, List.head?_eq_none_iff, pressed, List.filter_eq_nil_iff]
  constructor
  · intro up
    have zero : keys.bits.toNat = 0 := by
      apply Nat.eq_of_testBit_eq
      intro k
      rw [Nat.zero_testBit]
      by_cases inside : k < 16
      · exact Bool.eq_false_iff.mpr (up k (List.mem_range.mpr inside))
      · apply Nat.testBit_lt_two_pow
        exact Nat.lt_of_lt_of_le bound (Nat.pow_le_pow_right (by decide) (Nat.le_of_not_lt inside))
    cases keys
    exact congrArg Keypad.mk (UInt16.toNat_inj.mp zero)
  · rintro rfl k _
    simp [empty]

/-! ## Keys from states -/

/-- Putting one key into a keypad puts no other key into it. -/
theorem testBit_union_key (keys : Keypad) (place : Fin 16) (k : Nat) :
    (keys.union ⟨1 <<< place.val.toUInt16⟩).bits.toNat.testBit k = true ↔
      keys.bits.toNat.testBit k = true ∨ place.val = k := by
  have power : ∀ place : Fin 16, ((1 : UInt16) <<< place.val.toUInt16).toNat = 2 ^ place.val := by
    decide
  rw [union, UInt16.toNat_or, power, Nat.testBit_or, Nat.testBit_two_pow, Bool.or_eq_true,
    decide_eq_true_iff]

/-- A key is down on the keypad of some states when its state says so. -/
theorem testBit_ofStates (states : Vector Bool 16) (k : Nat) :
    (ofStates states).bits.toNat.testBit k = true ↔ ∃ inside : k < 16, states[k] = true := by
  -- the keys go into the keypad one after another, and none is taken out
  suffices gathered : ∀ (places : List (Fin 16)) (keys : Keypad),
      (places.foldl (fun keys k => if states.get k then keys.union ⟨1 <<< k.val.toUInt16⟩ else keys)
        keys).bits.toNat.testBit k = true ↔
      keys.bits.toNat.testBit k = true ∨
        ∃ place ∈ places, place.val = k ∧ states.get place = true by
    rw [ofStates, gathered]
    constructor
    · rintro (none | ⟨place, _, rfl, down⟩)
      · simp [empty] at none
      · exact ⟨place.isLt, down⟩
    · rintro ⟨inside, down⟩
      exact .inr ⟨⟨k, inside⟩, List.mem_finRange _, rfl, down⟩
  intro places
  induction places with
  | nil => simp
  | cons place rest ih =>
    intro keys
    rw [List.foldl_cons, ih]
    by_cases down : states.get place = true
    · rw [if_pos down, testBit_union_key, or_assoc]
      simp [down]
    · simp [down]

end Chip8.Keypad
