import Chip8.CallStack

/-!
# The call stack as a list

Pushing adds an address at the end of the pending ones and popping takes the last one off. What lies
below stays, in the slots as well.
-/
namespace Chip8.CallStack

variable {stack after : CallStack} {value caller : UInt16} {fault : Fault}

theorem push_error_iff :
    stack.push value caller = .error fault ↔ stack.depth = 16 ∧ fault = .stackOverflow caller := by
  have bound := stack.depth_le
  unfold push
  split <;> simp [eq_comm] <;> omega

theorem pop_error_iff :
    stack.pop caller = .error fault ↔ stack.depth = 0 ∧ fault = .stackUnderflow caller := by
  unfold pop
  split <;> simp [eq_comm] <;> omega

/-- A push that succeeds, slot by slot. -/
theorem push_slots (h : stack.push value caller = .ok after) :
    ∃ room : stack.depth < 16, after.slots = stack.slots.set stack.depth value ∧
      after.depth = stack.depth + 1 := by
  unfold push at h
  split at h
  next room =>
    cases h
    exact ⟨room, rfl, rfl⟩
  · cases h

/-- A pop that succeeds leaves every slot as it is. -/
theorem pop_slots (h : stack.pop caller = .ok (value, after)) :
    ∃ some : after.depth < 16, after.slots = stack.slots ∧ stack.depth = after.depth + 1 ∧
      value = stack.slots[after.depth] := by
  have bound := stack.depth_le
  unfold pop at h
  split at h
  next pending =>
    cases h
    exact ⟨by dsimp only; omega, rfl, by dsimp only; omega, rfl⟩
  · cases h

theorem length_entries : stack.entries.length = stack.depth := by
  simp [entries, stack.depth_le]

theorem entries_push (h : stack.push value caller = .ok after) :
    after.entries = stack.entries ++ [value] := by
  obtain ⟨room, slots, depth⟩ := push_slots h
  have kept : (stack.slots.set stack.depth value).toList.take stack.depth =
      stack.slots.toList.take stack.depth := by
    rw [Vector.toList_set, List.take_set_of_le (Nat.le_refl _)]
  simp [entries, slots, depth, List.take_add_one, kept, room]

theorem entries_pop (h : stack.pop caller = .ok (value, after)) :
    stack.entries = after.entries ++ [value] := by
  obtain ⟨some, slots, depth, top⟩ := pop_slots h
  simp [entries, slots, depth, List.take_add_one, top, some]

end Chip8.CallStack
