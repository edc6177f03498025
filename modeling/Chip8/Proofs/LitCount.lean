import Chip8.Proofs.Sprites
import Mathlib.Data.Fintype.Basic
import Mathlib.Data.Finset.Card

/-!
# Counting lit pixels

Each set bit of a sprite toggles one cell, so one pixel more is lit after it, or one less. Over a
whole sprite the number of lit pixels grows by its set bits, less two for every lit pixel that went
dark on the way; and that some pixel did is what a collision is. So the count alone tells whether
there was one.
-/
namespace Chip8.Screen

def setBits (sprite : List UInt8) : Nat :=
  (sprite.map fun row => (List.range 8).countP fun bit => row.toNat.testBit bit).sum

def flipped (screen : Screen) (cell : Cell) : Screen :=
  (toggle (screen, false) cell).1

/-- The screens that toggling cells one after another goes through. -/
def stagesOf (screen : Screen) (cells : List Cell) : List Screen :=
  cells.scanl flipped screen

/-- The screens that drawing a sprite goes through. -/
def stages (screen : Screen) (x y : Nat) (sprite : List UInt8) : List Screen :=
  screen.stagesOf (hits x y sprite)

/-- The number of cells that are lit on one screen and dark on another. -/
def darkened (before after : Screen) : Nat :=
  (Finset.univ.filter fun cell : Cell =>
    before.cells.get cell = true ∧ after.cells.get cell = false).card

/-- How often a lit cell goes dark from one screen to the next. -/
def darkenings : List Screen → Nat
  | before :: after :: rest => darkened before after + darkenings (after :: rest)
  | _ => 0

/-! ## Toggling a cell -/

variable (screen : Screen) (cells : List Cell)

theorem get_flipped (cell other : Cell) :
    (screen.flipped cell).cells.get other =
      if cell = other then !screen.cells.get other else screen.cells.get other :=
  get_toggle (screen, false) cell other

/-- A toggled cell goes dark just if it was lit, and no other cell does. -/
theorem darkened_flipped (cell : Cell) :
    darkened screen (screen.flipped cell) = (screen.cells.get cell).toNat := by
  have only : ∀ other, (screen.cells.get other = true ∧
      (screen.flipped cell).cells.get other = false) ↔
      other = cell ∧ screen.cells.get cell = true := by
    intro other
    rw [get_flipped]
    by_cases same : cell = other
    · subst same
      simp
    · simp [same, Ne.symm same]
  rw [darkened, Finset.filter_congr fun other _ => only other]
  cases screen.cells.get cell with
  | true => simp [Finset.filter_eq']
  | false => simp

/-- One pixel more is lit after a dark one was toggled, and one less after a lit one. -/
theorem litCount_flipped (cell : Cell) :
    (screen.flipped cell).litCount + 2 * (screen.cells.get cell).toNat = screen.litCount + 1 := by
  have inside : cell.val < screen.cells.toList.length := by
    rw [Vector.length_toList]
    exact cell.isLt
  have here : screen.cells.toList[cell.val] = screen.cells.get cell := rfl
  have listed : (screen.flipped cell).cells.toList =
      screen.cells.toList.set cell.val (!screen.cells.get cell) := Vector.toList_set cell.isLt
  rw [litCount, litCount, listed, List.count_set inside, here]
  cases lit : screen.cells.get cell with
  | true =>
    -- the lit cell itself is counted, so the truncated subtraction loses nothing
    have some : 0 < screen.cells.toList.count true :=
      List.count_pos_iff.mpr (lit ▸ here ▸ List.getElem_mem inside)
    show _ - 1 + 0 + 2 * 1 = _
    omega
  | false => simp

/-! ## Toggling cells one after another -/

theorem foldl_toggle_cons (cell : Cell) (collided : Bool) :
    (cell :: cells).foldl toggle (screen, collided) =
      cells.foldl toggle (screen.flipped cell, collided || screen.cells.get cell) := rfl

theorem stagesOf_cons (cell : Cell) :
    screen.stagesOf (cell :: cells) = screen :: (screen.flipped cell).stagesOf cells :=
  List.scanl_cons

theorem darkenings_stagesOf_cons (cell : Cell) :
    darkenings (screen.stagesOf (cell :: cells)) =
      (screen.cells.get cell).toNat + darkenings ((screen.flipped cell).stagesOf cells) := by
  obtain ⟨rest, first⟩ : ∃ rest, (screen.flipped cell).stagesOf cells =
      screen.flipped cell :: rest := by
    cases cells with
    | nil => exact ⟨[], rfl⟩
    | cons next later => exact ⟨_, stagesOf_cons _ later next⟩
  rw [stagesOf_cons, first, darkenings, darkened_flipped]

theorem getLast?_stagesOf (collided : Bool) :
    (screen.stagesOf cells).getLast? = some (cells.foldl toggle (screen, collided)).1 := by
  rw [stagesOf, List.getLast?_scanl]
  refine congrArg some ?_
  induction cells generalizing screen collided with
  | nil => rfl
  | cons cell rest ih => exact ih _ _

/-- Every toggled cell counts one, and takes two back if it went dark. -/
theorem litCount_foldl_toggle (collided : Bool) :
    (cells.foldl toggle (screen, collided)).1.litCount + 2 * darkenings (screen.stagesOf cells) =
      screen.litCount + cells.length := by
  induction cells generalizing screen collided with
  | nil => rfl
  | cons cell rest ih =>
    have later := ih (screen.flipped cell) (collided || screen.cells.get cell)
    have first := litCount_flipped screen cell
    rw [foldl_toggle_cons, darkenings_stagesOf_cons, List.length_cons]
    omega

theorem collided_iff_darkenings (collided : Bool) :
    (cells.foldl toggle (screen, collided)).2 = true ↔
      collided = true ∨ 0 < darkenings (screen.stagesOf cells) := by
  induction cells generalizing screen collided with
  | nil => simp [stagesOf, darkenings]
  | cons cell rest ih =>
    rw [foldl_toggle_cons, darkenings_stagesOf_cons, ih, Bool.or_eq_true, or_assoc]
    refine or_congr_right ?_
    cases screen.cells.get cell with
    | true => exact iff_of_true (.inl rfl) (Nat.add_pos_left Nat.one_pos _)
    | false => simp

/-! ## Drawing -/

/-- The bits of a row, counted from either side. -/
theorem length_setColumns (row : UInt8) :
    (setColumns row).length = (List.range 8).countP fun bit => row.toNat.testBit bit := by
  have mirrored : (List.range 8).map (7 - ·) = (List.range 8).reverse := by decide
  rw [setColumns, ← List.countP_eq_length_filter, ← List.countP_reverse, ← mirrored,
    List.countP_map]
  rfl

/-- As many cells are toggled as bits are set. -/
theorem length_hits (x y : Nat) (sprite : List UInt8) :
    (hits x y sprite).length = setBits sprite := by
  rw [hits, List.length_flatMap, setBits]
  simp only [List.length_map, length_setColumns]
  conv_rhs => rw [← List.zipIdx_map_fst 0 sprite, List.map_map]
  rfl

theorem litCount_drawSprite (screen : Screen) (x y : Nat) (sprite : List UInt8) :
    (screen.drawSprite x y sprite).1.litCount + 2 * darkenings (screen.stages x y sprite) =
      screen.litCount + setBits sprite := by
  rw [← length_hits x y]
  exact litCount_foldl_toggle screen (hits x y sprite) false

theorem collided_iff_darkened (screen : Screen) (x y : Nat) (sprite : List UInt8) :
    (screen.drawSprite x y sprite).2 = true ↔ 0 < darkenings (screen.stages x y sprite) := by
  rw [drawSprite, collided_iff_darkenings, or_iff_right Bool.false_ne_true]
  rfl

/-- Bytes that show a screen have as many ones as it has lit pixels. -/
theorem count_cellByte (screen : Screen) :
    (screen.cells.map Bare.cellByte).toList.count 1 = screen.litCount := by
  have apart : Function.Injective Bare.cellByte := by decide
  rw [Vector.toList_map, litCount, ← List.count_map_of_injective _ _ apart]
  rfl

/-- Drawing a sprite leads from one screen to the next, one toggle for each set bit. As many pixels
more are lit afterwards as bits are set, less two for each pixel that went dark on the way, and there
was a collision exactly if one did; so there was none exactly if the count grew by all set bits. The
same goes for the ones among the bytes of a loop that toggles them in place. -/
theorem drawSprite_litCount (screen : Screen) (x y : Nat) (sprite : List UInt8) :
    ∃ drawn collided passed,
      (drawn, collided) = screen.drawSprite x y sprite ∧
      passed = screen.stages x y sprite ∧
      passed.head? = some screen ∧ passed.getLast? = some drawn ∧
      passed.length = setBits sprite + 1 ∧
      (collided = false ↔ drawn.litCount = screen.litCount + setBits sprite) ∧
      drawn.litCount + 2 * darkenings passed = screen.litCount + setBits sprite ∧
      (collided = true ↔ 0 < darkenings passed) ∧
      (sprite.length < 2 ^ 63 → ∃ cells,
        Bare.plotSprite x y sprite (screen.cells.map Bare.cellByte) = some (cells, collided) ∧
        (screen.cells.map Bare.cellByte).toList.count 1 = screen.litCount ∧
        cells.toList.count 1 = drawn.litCount) := by
  have counted := litCount_drawSprite screen x y sprite
  have flag := collided_iff_darkened screen x y sprite
  refine ⟨(screen.drawSprite x y sprite).1, (screen.drawSprite x y sprite).2, _, rfl, rfl,
    List.head?_scanl, getLast?_stagesOf _ _ _, ?length, ?grown, counted, flag, fun small =>
      ⟨_, Bare.plotSprite_bytesOf small x y screen, count_cellByte screen, count_cellByte _⟩⟩
  case length => rw [stages, stagesOf, List.length_scanl, length_hits]
  case grown =>
    rw [← Bool.not_eq_true, flag]
    omega

/-- Of the two bits of a sprite one falls on the lit corner, which goes dark, and the other one
lights the pixel beside it: the count stays as it was. -/
theorem corner_counts :
    ∃ corner drawn, corner = (blank.drawSprite 0 0 [0x80]).1 ∧
      (drawn, true) = corner.drawSprite 64 32 [0xC0] ∧
      corner.litCount = 1 ∧ drawn.litCount = 1 ∧
      darkenings (corner.stages 64 32 [0xC0]) = 1 ∧
      ∃ cells, Bare.plotSprite 64 32 [0xC0] (corner.cells.map Bare.cellByte) =
        some (cells, true) ∧ cells.toList.count 1 = 1 := by
  have one : (blank.drawSprite 0 0 [0x80]).1.litCount = 1 := by decide +kernel
  have still : ((blank.drawSprite 0 0 [0x80]).1.drawSprite 64 32 [0xC0]).1.litCount = 1 := by
    decide +kernel
  obtain ⟨drawn, collided, passed, isDrawn, rfl, _, _, _, _, counted, flag, inPlace⟩ :=
    drawSprite_litCount (blank.drawSprite 0 0 [0x80]).1 64 32 [0xC0]
  have bits : setBits [0xC0] = 2 := by decide
  have lit : drawn.litCount = 1 := (congrArg (·.1.litCount) isDrawn).trans still
  rw [one, lit, bits] at counted
  obtain rfl : collided = true := flag.mpr (by omega)
  obtain ⟨cells, plotted, _, ones⟩ := inPlace (by decide)
  exact ⟨_, drawn, rfl, isDrawn, one, lit, by omega, cells, plotted, ones.trans lit⟩

end Chip8.Screen
