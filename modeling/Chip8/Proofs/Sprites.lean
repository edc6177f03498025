import Chip8.Proofs.Bare.Blocks
import Mathlib.Data.Finset.Prod
import Mathlib.Data.List.ProdSigma

/-!
# Sprites toggle

Drawing a sprite toggles cells one after another, and a cell that several bits fall on is toggled
several times. So what a cell holds in the end, and whether it ever went dark on the way, hangs on
the number of its hits alone, and a lit pixel has gone dark exactly where the pixel and its hits
come to two or more.
-/
namespace Chip8.Screen

/-- The number of set bits of a sprite that fall on a place. -/
def hitCount (x y : Nat) (sprite : List UInt8) (cx cy : Nat) : Nat :=
  ((Finset.range sprite.length ×ˢ Finset.range 8).filter fun (r, bit) =>
    (sprite.getD r 0).toNat.testBit (7 - bit) = true ∧ (x % 64 + bit) % 64 = cx ∧
      (y % 32 + r) % 32 = cy).card

/-! ## Cells and places -/

/-- Two places are the same cell when they are equal up to the size of the screen. -/
theorem cellAt_eq_iff {x y cx cy : Nat} :
    cellAt x y = cellAt cx cy ↔ x % 64 = cx % 64 ∧ y % 32 = cy % 32 := by
  have column : x % 64 < 64 := Nat.mod_lt _ (by decide)
  have column' : cx % 64 < 64 := Nat.mod_lt _ (by decide)
  rw [Fin.ext_iff]
  show y % 32 * 64 + x % 64 = cy % 32 * 64 + cx % 64 ↔ _
  omega

/-- Every cell is at one place of the screen. -/
theorem exists_cellAt (cell : Cell) : ∃ cx < 64, ∃ cy < 32, cellAt cx cy = cell := by
  have inside : cell.val < 32 * 64 := cell.isLt
  refine ⟨cell.val % 64, by omega, cell.val / 64, by omega, Fin.ext ?_⟩
  show cell.val / 64 % 32 * 64 + cell.val % 64 % 64 = cell.val
  omega

theorem pixel_eq (screen : Screen) (x y : Nat) :
    screen.pixel x y = (screen.cells.get (cellAt x y)).toNat := rfl

/-! ## Toggling cells one after another -/

variable (state : Screen × Bool) (cells : List Cell)

theorem get_toggle (cell other : Cell) :
    (toggle state cell).1.cells.get other =
      if cell = other then !state.1.cells.get other else state.1.cells.get other := by
  show (state.1.cells.set cell (!state.1.cells.get cell))[other.val] = _
  rw [Vector.getElem_set]
  by_cases same : cell = other
  · subst same
    simp
  · have apart : cell.val ≠ other.val := fun equal => same (Fin.ext equal)
    simp only [if_neg apart, if_neg same]
    rfl

/-- A cell is as it was or not by the parity of its toggles. -/
theorem get_foldl_toggle (cell : Cell) :
    ((cells.foldl toggle state).1.cells.get cell).toNat =
      ((state.1.cells.get cell).toNat + cells.count cell) % 2 := by
  induction cells generalizing state with
  | nil =>
    have single : ∀ lit : Bool, lit.toNat = lit.toNat % 2 := by decide
    exact single _
  | cons head rest ih =>
    rw [List.foldl_cons, ih, get_toggle, List.count_cons]
    by_cases same : head = cell
    · cases state.1.cells.get cell <;> simp [same] <;> omega
    · simp [same]

/-- A lit pixel has gone dark on the way exactly where a cell and its toggles come to two. -/
theorem collided_foldl_toggle :
    (cells.foldl toggle state).2 = true ↔ state.2 = true ∨
      ∃ cell, 2 ≤ (state.1.cells.get cell).toNat + cells.count cell := by
  induction cells generalizing state with
  | nil =>
    have single : ∀ lit : Bool, ¬ 2 ≤ lit.toNat := by decide
    simp [single]
  | cons head rest ih =>
    have flag : (toggle state head).2 = (state.2 || state.1.cells.get head) := rfl
    rw [List.foldl_cons, ih, flag, Bool.or_eq_true, or_assoc]
    refine or_congr_right ?_
    -- the head is toggled now; of the other cells nothing has changed
    constructor
    · rintro (lit | ⟨cell, twice⟩)
      · refine ⟨head, ?_⟩
        simp [lit]
        omega
      · refine ⟨cell, twice.trans ?_⟩
        rw [get_toggle, List.count_cons]
        by_cases same : head = cell
        · cases state.1.cells.get cell <;> simp [same] <;> omega
        · simp [same]
    · rintro ⟨cell, twice⟩
      rw [List.count_cons] at twice
      by_cases same : head = cell
      · subst same
        cases lit : state.1.cells.get head with
        | true => exact .inl rfl
        | false =>
          refine .inr ⟨head, ?_⟩
          rw [get_toggle, if_pos rfl, lit]
          simpa [lit, Nat.add_comm] using twice
      · refine .inr ⟨cell, ?_⟩
        rw [get_toggle, if_neg same]
        simpa [same] using twice

/-! ## The hits of a sprite -/

theorem zipIdx_eq_map (sprite : List UInt8) :
    sprite.zipIdx = (List.range sprite.length).map fun r => (sprite.getD r 0, r) := by
  refine List.ext_getElem (by simp) fun r inside _ => ?_
  have small : r < sprite.length := by simpa using inside
  simp [small]

/-- The hits of a sprite, taken over all its rows and bits. -/
theorem hits_eq_map (x y : Nat) (sprite : List UInt8) :
    hits x y sprite =
      ((List.range sprite.length ×ˢ List.range 8).filter fun (r, bit) =>
        (sprite.getD r 0).toNat.testBit (7 - bit)).map fun (r, bit) =>
          cellAt (x % width + bit) (y % height + r) := by
  rw [hits, zipIdx_eq_map, List.flatMap_map]
  simp only [SProd.sprod, List.product, List.filter_flatMap, List.map_flatMap, List.filter_map,
    List.map_map, setColumns]
  rfl

/-- A cell is hit as often as bits fall on its place. -/
theorem count_hits (x y : Nat) (sprite : List UInt8) {cx cy : Nat} (column : cx < 64)
    (row : cy < 32) : (hits x y sprite).count (cellAt cx cy) = hitCount x y sprite cx cy := by
  have pairs : Finset.range sprite.length ×ˢ Finset.range 8 =
      (List.range sprite.length ×ˢ List.range 8).toFinset := by
    ext ⟨r, bit⟩
    simp
  have once : (List.range sprite.length ×ˢ List.range 8).Nodup :=
    List.nodup_range.product List.nodup_range
  rw [hits_eq_map, List.count, List.countP_map, List.countP_filter, hitCount, pairs,
    List.countP_eq_length_filter, ← List.toFinset_card_of_nodup (once.filter _)]
  congr 1
  ext ⟨r, bit⟩
  simp [cellAt_eq_iff, Nat.mod_eq_of_lt column, Nat.mod_eq_of_lt row]
  tauto

/-- A place is hit when some set bit falls on it. -/
theorem hitCount_pos_iff {x y cx cy : Nat} {sprite : List UInt8} :
    1 ≤ hitCount x y sprite cx cy ↔ ∃ r < sprite.length, ∃ bit < 8,
      (sprite.getD r 0).toNat.testBit (7 - bit) = true ∧ (x % 64 + bit) % 64 = cx ∧
        (y % 32 + r) % 32 = cy := by
  rw [hitCount, Finset.one_le_card, Finset.Nonempty]
  simp [and_assoc]

/-- A sprite no taller than the screen hits no place twice. -/
theorem hitCount_le_one (x y : Nat) {sprite : List UInt8} (short : sprite.length ≤ 32)
    (cx cy : Nat) : hitCount x y sprite cx cy ≤ 1 := by
  rw [hitCount, Finset.card_le_one]
  rintro ⟨r, bit⟩ hit ⟨r', bit'⟩ hit'
  simp only [Finset.mem_filter, Finset.mem_product, Finset.mem_range] at hit hit'
  ext
  · dsimp only
    omega
  · dsimp only
    omega

/-! ## Drawing -/

theorem pixel_le_one (screen : Screen) (x y : Nat) : screen.pixel x y ≤ 1 :=
  Bool.toNat_le _

theorem pixel_drawSprite (screen : Screen) (x y : Nat) (sprite : List UInt8) {cx cy : Nat}
    (column : cx < 64) (row : cy < 32) :
    (screen.drawSprite x y sprite).1.pixel cx cy =
      (screen.pixel cx cy + hitCount x y sprite cx cy) % 2 := by
  rw [pixel_eq, drawSprite, get_foldl_toggle, count_hits x y sprite column row]
  rfl

/-- A lit pixel goes dark on the way where a pixel and its hits come to two. -/
theorem collided_drawSprite (screen : Screen) (x y : Nat) (sprite : List UInt8) :
    (screen.drawSprite x y sprite).2 = true ↔
      ∃ cx < 64, ∃ cy < 32, 2 ≤ screen.pixel cx cy + hitCount x y sprite cx cy := by
  rw [drawSprite, collided_foldl_toggle, or_iff_right Bool.false_ne_true]
  constructor
  · rintro ⟨cell, twice⟩
    obtain ⟨cx, column, cy, row, rfl⟩ := exists_cellAt cell
    rw [count_hits x y sprite column row] at twice
    exact ⟨cx, column, cy, row, twice⟩
  · rintro ⟨cx, column, cy, row, twice⟩
    refine ⟨cellAt cx cy, ?_⟩
    rw [count_hits x y sprite column row]
    exact twice

/-- For a sprite no taller than the screen that is where a lit pixel is hit. -/
theorem collided_drawSprite_of_short (screen : Screen) (x y : Nat) {sprite : List UInt8}
    (short : sprite.length ≤ 32) :
    (screen.drawSprite x y sprite).2 = true ↔
      ∃ cx < 64, ∃ cy < 32, screen.pixel cx cy = 1 ∧ 1 ≤ hitCount x y sprite cx cy := by
  rw [collided_drawSprite]
  refine exists_congr fun cx => and_congr_right fun _ => exists_congr fun cy =>
    and_congr_right fun _ => ?_
  have once := hitCount_le_one x y short cx cy
  have lit := screen.pixel_le_one cx cy
  omega

/-- After a sprite was drawn every pixel is what it was, changed as often as bits of the sprite fell
on it, and the flag says whether a pixel and its hits came to two anywhere, which for a sprite no
taller than the screen means that a lit pixel was hit. A loop over the rows and bits that changes
bytes in place comes to the same, and to no place outside the screen. -/
theorem drawSprite_parity (screen : Screen) (x y : Nat) (sprite : List UInt8) :
    (∀ cx < 64, ∀ cy < 32,
      (screen.drawSprite x y sprite).1.pixel cx cy =
        (screen.pixel cx cy + hitCount x y sprite cx cy) % 2) ∧
    ((screen.drawSprite x y sprite).2 = true ↔
      ∃ cx < 64, ∃ cy < 32, 2 ≤ screen.pixel cx cy + hitCount x y sprite cx cy) ∧
    (sprite.length ≤ 32 →
      ((screen.drawSprite x y sprite).2 = true ↔
        ∃ cx < 64, ∃ cy < 32, screen.pixel cx cy = 1 ∧ 1 ≤ hitCount x y sprite cx cy)) ∧
    (sprite.length < 2 ^ 63 →
      Bare.plotSprite x y sprite (screen.cells.map Bare.cellByte) =
        some ((screen.drawSprite x y sprite).1.cells.map Bare.cellByte,
          (screen.drawSprite x y sprite).2)) :=
  ⟨fun _ column _ row => pixel_drawSprite screen x y sprite column row,
    collided_drawSprite screen x y sprite, collided_drawSprite_of_short screen x y,
    fun small => Bare.plotSprite_bytesOf small x y screen⟩

def tallSprite : List UInt8 := List.replicate 33 0x81

/-- The first row of the tall sprite is hit again by its last one and goes dark, on a screen on
which nothing was lit; two rows hit no pixel twice. -/
theorem tallSprite_collides :
    (blank.drawSprite 69 34 tallSprite).1.pixel 5 2 = 0 ∧
      (blank.drawSprite 69 34 tallSprite).2 = true ∧
      (blank.drawSprite 69 34 [0x81, 0x81]).2 = false ∧
      ∃ cells, Bare.plotSprite 69 34 tallSprite (blank.cells.map Bare.cellByte) =
        some (cells, true) := by
  have twice : hitCount 69 34 tallSprite 5 2 = 2 := by decide +kernel
  have dark : ∀ cx cy, blank.pixel cx cy = 0 := by simp [pixel]
  obtain ⟨pixels, collided, _, plotted⟩ := drawSprite_parity blank 69 34 tallSprite
  obtain ⟨_, _, short, _⟩ := drawSprite_parity blank 69 34 [0x81, 0x81]
  have lit : (blank.drawSprite 69 34 tallSprite).2 = true :=
    collided.mpr ⟨5, by decide, 2, by decide, by rw [dark, twice]⟩
  refine ⟨?_, lit, ?_, ?_⟩
  · rw [pixels 5 (by decide) 2 (by decide), dark, twice]
  · rw [Bool.eq_false_iff, ne_eq, short (by decide)]
    rintro ⟨cx, _, cy, _, one, _⟩
    rw [dark] at one
    cases one
  · have answer := plotted (by decide)
    rw [lit] at answer
    exact ⟨_, answer⟩

end Chip8.Screen
