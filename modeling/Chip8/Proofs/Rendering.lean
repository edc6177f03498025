import Chip8.Proofs.Panel

/-!
# Rendering

What rendering writes: four bytes for each real pixel, one pixel after another, as long as whole
pixels fit into the frame. The frame keeps its other bytes, and only a frame that takes the whole
image takes the mark off the display that it is dirty.
-/
namespace Chip8

/-- Where every element makes a block of one length, an element of a block is found by counting the
blocks before it. -/
theorem getElem?_blocks {α β : Type} {f : α → List β} {k : Nat} (even : ∀ a, (f a).length = k)
    (list : List α) (i : Nat) {c : Nat} (inside : c < k) :
    (list.flatMap f)[k * i + c]? = list[i]?.bind fun a => (f a)[c]? := by
  induction list generalizing i with
  | nil => rfl
  | cons a rest ih =>
    rw [List.flatMap_cons]
    cases i with
    | zero =>
      rw [Nat.mul_zero, Nat.zero_add, List.getElem?_append_left ((even a).symm ▸ inside)]
      rfl
    | succ i =>
      have past : k * (i + 1) + c = (f a).length + (k * i + c) := by
        rw [even, Nat.mul_succ]
        omega
      rw [past, List.getElem?_append_right (Nat.le_add_right _ _), Nat.add_sub_cancel_left, ih]
      rfl

namespace Display

variable {display : Display} {frame : Array UInt8}

theorem size_colour (lit : Bool) : (colour lit).size = 4 := by
  cases lit <;> rfl

/-- An image takes four bytes for each real pixel that is wanted and there. -/
theorem size_image (display : Display) (count : Nat) :
    (display.image count).size = min count display.buffer.size * 4 := by
  rw [image, Array.size_flatMap]
  simp only [size_colour, Array.map_const', Array.sum_replicate_nat, Array.size_extract,
    Nat.sub_zero]

theorem render_frame (display : Display) (frame : Array UInt8) :
    (display.render frame).frame = display.image (frame.size / 4) ++
      frame.extract (display.image (frame.size / 4)).size frame.size := by
  unfold render
  dsimp only
  split
  · rfl
  · rfl

/-- Rendering keeps the size of a frame. -/
theorem size_render (display : Display) (frame : Array UInt8) :
    (display.render frame).frame.size = frame.size := by
  have fits := size_image display (frame.size / 4)
  rw [render_frame, Array.size_append, Array.size_extract]
  omega

theorem render_complete (display : Display) (frame : Array UInt8) :
    (display.render frame).complete = decide (display.imageSize ≤ frame.size) := by
  unfold render
  dsimp only
  split
  · rename_i fits
    exact (decide_eq_true fits).symm
  · rename_i short
    exact (decide_eq_false short).symm

/-- A display that was rendered whole is no longer dirty, and nothing else about it changes. -/
theorem render_display (display : Display) (frame : Array UInt8) :
    (display.render frame).display =
      { display with dirty := !(display.render frame).complete && display.dirty } := by
  unfold render
  dsimp only
  split
  · rfl
  · rfl

/-- A byte of a real pixel in an image. -/
theorem getElem?_image (display : Display) (count i : Nat) {c : Nat} (inside : c < 4) :
    (display.image count)[4 * i + c]? =
      (display.buffer.extract 0 count)[i]?.bind fun lit => (colour lit)[c]? := by
  have four : ∀ lit, (colour lit).toList.length = 4 := fun lit => size_colour lit
  rw [image, ← Array.getElem?_toList, Array.toList_flatMap, getElem?_blocks four _ _ inside,
    Array.getElem?_toList]
  simp only [Array.getElem?_toList]

/-- A real pixel that fits whole into a frame is written there in its colour. -/
theorem extract_render {i : Nat} {lit : Bool} (found : display.buffer[i]? = some lit)
    (fits : 4 * i + 4 ≤ frame.size) :
    (display.render frame).frame.extract (4 * i) (4 * i + 4) = colour lit := by
  obtain ⟨there, _⟩ := Array.getElem?_eq_some_iff.mp found
  have whole := size_image display (frame.size / 4)
  apply Array.ext_getElem?
  intro c
  rw [Array.getElem?_extract, size_render, Nat.min_eq_left fits, Nat.add_sub_cancel_left]
  split
  case isFalse past =>
    symm
    rw [Array.getElem?_eq_none_iff, size_colour]
    exact Nat.le_of_not_lt past
  case isTrue inside =>
    have wanted : (display.buffer.extract 0 (frame.size / 4))[i]? = some lit := by
      rw [Array.getElem?_extract, Nat.zero_add, found]
      exact if_pos (by omega)
    rw [render_frame, Array.getElem?_append_left (by omega), getElem?_image _ _ _ inside, wanted]
    rfl

end Display
end Chip8
