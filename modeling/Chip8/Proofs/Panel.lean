import Chip8.Display

/-!
# Panels

A display that stores its real pixels in one flat array and changes them in place, pixel by pixel.
It always stores the pixels of the display that has seen the same events.
-/
namespace Chip8

/-! ## The real pixels of a display -/

/-- The real pixels of a display, at their places. -/
theorem Display.getElem?_buffer (display : Display) (i : Nat) :
    display.buffer[i]? = if i < display.width * display.height then
      some (display.shown.isLit (i % display.width / display.scale)
        (i / display.width / display.scale)) else none := by
  simp [buffer, Array.getElem?_ofFn]

theorem Display.buffer_of_blank {display : Display} (dark : display.shown = .blank) :
    display.buffer = Array.replicate (display.width * display.height) false := by
  refine Array.ext_getElem? fun i => ?_
  rw [getElem?_buffer, dark, Screen.isLit_blank, Array.getElem?_replicate]

structure Panel where
  scale : Nat
  width : Nat
  height : Nat
  pixels : Array Bool

namespace Panel

/-- A dark panel; a pixel is at least one real pixel wide. -/
def ofScale (scale : Nat) : Panel :=
  let side := max 1 scale
  { scale := side
    width := Screen.width * side
    height := Screen.height * side
    pixels := Array.replicate (Screen.width * side * (Screen.height * side)) false }

def clear (panel : Panel) : Panel :=
  { panel with pixels := Array.replicate panel.pixels.size false }

def drawRow (panel : Panel) (screen : Screen) (pixels : Array Bool) (row : Nat) : Array Bool :=
  (List.range panel.width).foldl
    (fun pixels column => pixels.setIfInBounds (row * panel.width + column)
      (screen.isLit (column / panel.scale) (row / panel.scale)))
    pixels

def draw (panel : Panel) (screen : Screen) : Panel :=
  { panel with pixels := (List.range panel.height).foldl (panel.drawRow screen) panel.pixels }

def observe (panel : Panel) : Event → Panel
  | .displayReset => panel.clear
  | .screenShown screen => panel.draw screen
  | _ => panel

def follow (panel : Panel) (events : List Event) : Panel :=
  events.foldl observe panel

/-! ## Writing in place -/

variable {panel : Panel} {display : Display}

/-- A place of a flat array, as a row and a column. -/
theorem place_iff {width column i : Nat} (row : Nat) (inside : column < width) :
    row * width + column = i ↔ i / width = row ∧ i % width = column := by
  have positive : 0 < width := Nat.lt_of_le_of_lt (Nat.zero_le _) inside
  constructor
  · rintro rfl
    rw [Nat.mul_comm, Nat.mul_add_div positive, Nat.mul_add_mod, Nat.div_eq_of_lt inside,
      Nat.mod_eq_of_lt inside]
    exact ⟨rfl, rfl⟩
  · rintro ⟨rfl, rfl⟩
    exact Nat.div_add_mod' i width

/-- Writing some columns of a row changes these places and no other. -/
theorem getElem?_columns {width : Nat} (row : Nat) (value : Nat → Bool) (columns : List Nat)
    (inside : ∀ column ∈ columns, column < width) (pixels : Array Bool) (i : Nat) :
    (columns.foldl (fun pixels column => pixels.setIfInBounds (row * width + column) (value column))
      pixels)[i]? =
      if i / width = row ∧ i % width ∈ columns then pixels[i]?.map fun _ => value (i % width)
      else pixels[i]? := by
  induction columns generalizing pixels with
  | nil => simp
  | cons column rest ih =>
    have here := place_iff (i := i) row (inside column (by simp))
    rw [List.foldl_cons, ih (fun column member => inside column (by simp [member]))]
    by_cases hit : row * width + column = i
    · obtain ⟨sameRow, sameColumn⟩ := here.mp hit
      by_cases stored : i < pixels.size
      · simp [hit, sameRow, sameColumn, stored]
      · simp [hit, sameRow, sameColumn, stored]
    · have missed : i / width = row → i % width ≠ column := fun sameRow sameColumn =>
        hit (here.mpr ⟨sameRow, sameColumn⟩)
      rw [Array.getElem?_setIfInBounds_ne hit]
      by_cases sameRow : i / width = row
      · simp [sameRow, missed sameRow]
      · simp [sameRow]

/-- Writing some rows changes these rows and no other. -/
theorem getElem?_rows (screen : Screen) (rows : List Nat) (pixels : Array Bool) (i : Nat)
    (positive : 0 < panel.width) :
    (rows.foldl (panel.drawRow screen) pixels)[i]? =
      if i / panel.width ∈ rows then
        pixels[i]?.map fun _ =>
          screen.isLit (i % panel.width / panel.scale) (i / panel.width / panel.scale)
      else pixels[i]? := by
  induction rows generalizing pixels with
  | nil => simp
  | cons row rest ih =>
    have columns := getElem?_columns row
      (fun column => screen.isLit (column / panel.scale) (row / panel.scale))
      (List.range panel.width) (fun column member => List.mem_range.mp member) pixels i
    have small : i % panel.width < panel.width := Nat.mod_lt _ positive
    rw [List.foldl_cons, ih, drawRow, columns]
    by_cases here : i / panel.width = row
    · by_cases later : row ∈ rest
      · simp [here, small, later]
        rfl
      · simp [here, small, later]
    · simp [here]

/-! ## Agreement with a display -/

/-- A panel stores the real pixels of a display. -/
structure Stores (panel : Panel) (display : Display) : Prop where
  scale : panel.scale = display.scale
  width : panel.width = display.width
  height : panel.height = display.height
  pixels : panel.pixels = display.buffer

theorem ofScale_stores (scale : Nat) : (ofScale scale).Stores (.ofScale scale) := by
  refine ⟨rfl, rfl, rfl, ?_⟩
  rw [Display.buffer_of_blank rfl]
  rfl

theorem Stores.clear (same : panel.Stores display) : panel.clear.Stores display.clear := by
  refine ⟨same.scale, same.width, same.height, ?_⟩
  rw [Display.buffer_of_blank rfl, Panel.clear, same.pixels, Display.size_buffer]
  rfl

theorem Stores.draw (same : panel.Stores display) (screen : Screen) :
    (panel.draw screen).Stores (display.present screen) := by
  refine ⟨same.scale, same.width, same.height, ?_⟩
  have positive : 0 < panel.width := by
    rw [same.width]
    exact Nat.mul_pos (by decide) display.scale_pos
  refine Array.ext_getElem? fun i => ?_
  have shape : (display.present screen).width * (display.present screen).height =
      display.width * display.height := rfl
  rw [Panel.draw, getElem?_rows screen _ _ i positive, same.pixels,
    Display.getElem?_buffer, Display.getElem?_buffer, same.scale, same.width, same.height, shape]
  by_cases inside : i < display.width * display.height
  · have row : i / display.width < display.height := Nat.div_lt_of_lt_mul inside
    rw [if_pos inside, if_pos inside, if_pos (List.mem_range.mpr row), Option.map_some]
    rfl
  · rw [if_neg inside, if_neg inside, Option.map_none, ite_self]

theorem Stores.observe (same : panel.Stores display) (event : Event) :
    (panel.observe event).Stores (display.observe event) := by
  cases event with
  | displayReset => exact same.clear
  | screenShown screen => exact same.draw screen
  | _ => exact same

/-- A panel stores the pixels of the display that has seen the same events. -/
theorem Stores.follow (same : panel.Stores display) (events : List Event) :
    (panel.follow events).Stores (display.follow events) := by
  induction events generalizing panel display with
  | nil => exact same
  | cons event rest ih => exact ih (same.observe event)

end Panel
end Chip8
