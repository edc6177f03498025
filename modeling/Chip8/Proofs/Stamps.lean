import Chip8.Proofs.Sprites

/-!
# Sprites in any order

Sprites drawn one after another change a pixel by the parity of all their hits on it together. That
number does not depend on the order of the sprites, nor on whole screens by which one is moved, and
drawing all of them once more makes it even. What is seen of a collision does depend on the order;
but of two sprites that undo each other one collides, unless nothing is drawn at all.
-/
namespace Chip8

/-- A sprite and the place where it is drawn. -/
structure Stamp where
  x : Nat
  y : Nat
  sprite : List UInt8
  deriving DecidableEq, Repr

namespace Stamp

variable {stamp other : Stamp}

/-- The other one is the same sprite, some whole screens further right and further down. -/
structure MovesTo (stamp other : Stamp) : Prop where
  sprite : other.sprite = stamp.sprite
  column : ∃ screens, other.x = stamp.x + 64 * screens
  row : ∃ screens, other.y = stamp.y + 32 * screens

def HasSetBit (stamp : Stamp) : Prop :=
  ∃ row ∈ stamp.sprite, ∃ bit < 8, row.toNat.testBit bit = true

/-- The number of set bits that fall on a place of the screen. -/
def hitCount (stamp : Stamp) (cx cy : Nat) : Nat :=
  Screen.hitCount stamp.x stamp.y stamp.sprite cx cy

theorem MovesTo.refl (stamp : Stamp) : stamp.MovesTo stamp :=
  ⟨rfl, ⟨0, rfl⟩, ⟨0, rfl⟩⟩

/-- Whole screens make no difference to where bits fall. -/
theorem MovesTo.hitCount (moves : stamp.MovesTo other) (cx cy : Nat) :
    other.hitCount cx cy = stamp.hitCount cx cy := by
  obtain ⟨sprite, ⟨right, column⟩, ⟨down, row⟩⟩ := moves
  rw [Stamp.hitCount, Stamp.hitCount, Screen.hitCount, Screen.hitCount, sprite, column, row,
    Nat.add_mul_mod_self_left, Nat.add_mul_mod_self_left]

/-- A sprite with a set bit hits some place, and no other sprite does. -/
theorem exists_hit_iff :
    (∃ cx < 64, ∃ cy < 32, 1 ≤ stamp.hitCount cx cy) ↔ stamp.HasSetBit := by
  constructor
  · rintro ⟨cx, _, cy, _, hit⟩
    obtain ⟨r, inside, bit, small, set, _⟩ := Screen.hitCount_pos_iff.mp hit
    rw [List.getD_eq_getElem?_getD, List.getElem?_eq_getElem inside] at set
    exact ⟨_, List.getElem_mem inside, 7 - bit, by omega, set⟩
  · rintro ⟨row, member, bit, small, set⟩
    obtain ⟨r, inside, rfl⟩ := List.getElem_of_mem member
    refine ⟨_, Nat.mod_lt _ (by decide), _, Nat.mod_lt _ (by decide),
      Screen.hitCount_pos_iff.mpr ⟨r, inside, 7 - bit, by omega, ?_, rfl, rfl⟩⟩
    have back : 7 - (7 - bit) = bit := by omega
    rw [List.getD_eq_getElem?_getD, List.getElem?_eq_getElem inside, back]
    exact set

end Stamp

/-! ## Many sprites -/

def Screen.stampAll (screen : Screen) (stamps : List Stamp) : Screen :=
  stamps.foldl (fun screen stamp => (screen.drawSprite stamp.x stamp.y stamp.sprite).1) screen

def Bare.plotAll (cells : Cells) (stamps : List Stamp) : Option Cells :=
  stamps.foldlM (fun cells stamp => (plotSprite stamp.x stamp.y stamp.sprite cells).map (·.1)) cells

namespace Screen

variable {stamp other : Stamp} {stamps others : List Stamp}

theorem ext_of_pixel {screen same : Screen}
    (agree : ∀ cx < 64, ∀ cy < 32, screen.pixel cx cy = same.pixel cx cy) : screen = same := by
  obtain ⟨cells⟩ := screen
  obtain ⟨cells'⟩ := same
  refine congrArg Screen.mk (Vector.ext fun i inside => ?_)
  obtain ⟨cx, column, cy, row, place⟩ := exists_cellAt ⟨i, inside⟩
  have number := agree cx column cy row
  have lit : ∀ a b : Bool, a.toNat = b.toNat → a = b := by decide
  rw [pixel_eq, pixel_eq, place] at number
  exact lit _ _ number

/-- A pixel is changed by the hits of all sprites together. -/
theorem pixel_stampAll (screen : Screen) (stamps : List Stamp) {cx cy : Nat} (column : cx < 64)
    (row : cy < 32) :
    (screen.stampAll stamps).pixel cx cy =
      (screen.pixel cx cy + (stamps.map fun stamp => stamp.hitCount cx cy).sum) % 2 := by
  induction stamps generalizing screen with
  | nil => exact (Nat.mod_eq_of_lt (Nat.lt_succ_of_le (screen.pixel_le_one cx cy))).symm
  | cons stamp rest ih =>
    rw [stampAll, List.foldl_cons, ← stampAll, ih, pixel_drawSprite _ _ _ _ column row,
      Nat.mod_add_mod, List.map_cons, List.sum_cons, Nat.add_assoc]
    rfl

/-- Sprites that hit every place equally often leave the same screen. -/
theorem stampAll_congr (screen : Screen)
    (equal : ∀ cx cy, (stamps.map fun stamp => stamp.hitCount cx cy).sum =
      (others.map fun stamp => stamp.hitCount cx cy).sum) :
    screen.stampAll others = screen.stampAll stamps := by
  refine ext_of_pixel fun cx column cy row => ?_
  rw [pixel_stampAll screen _ column row, pixel_stampAll screen _ column row, equal]

theorem stampAll_perm (screen : Screen) (shuffled : stamps.Perm others) :
    screen.stampAll others = screen.stampAll stamps :=
  stampAll_congr screen fun _ _ => (shuffled.map _).sum_nat

theorem stampAll_moved (screen : Screen) (moved : List.Forall₂ Stamp.MovesTo stamps others) :
    screen.stampAll others = screen.stampAll stamps := by
  refine stampAll_congr screen fun cx cy => ?_
  induction moved with
  | nil => rfl
  | cons moves _ ih => rw [List.map_cons, List.map_cons, List.sum_cons, List.sum_cons, ih,
      moves.hitCount]

/-- Sprites drawn twice over leave nothing. -/
theorem stampAll_stampAll (screen : Screen) (stamps : List Stamp) :
    (screen.stampAll stamps).stampAll stamps = screen := by
  refine ext_of_pixel fun cx column cy row => ?_
  have bit := screen.pixel_le_one cx cy
  rw [pixel_stampAll _ _ column row, pixel_stampAll _ _ column row]
  omega

/-- Of a sprite that is drawn twice one collides, the second if the first does not. -/
theorem collides_twice_iff (screen : Screen) (short : stamp.sprite.length ≤ 32)
    (moves : stamp.MovesTo other) :
    ((screen.drawSprite stamp.x stamp.y stamp.sprite).2 = true ∨
      ((screen.drawSprite stamp.x stamp.y stamp.sprite).1.drawSprite
        other.x other.y other.sprite).2 = true) ↔ stamp.HasSetBit := by
  have short' : other.sprite.length ≤ 32 := by rwa [moves.sprite]
  have again : ∀ cx cy, hitCount other.x other.y other.sprite cx cy = stamp.hitCount cx cy :=
    moves.hitCount
  rw [collided_drawSprite_of_short _ _ _ short, collided_drawSprite_of_short _ _ _ short',
    ← Stamp.exists_hit_iff]
  constructor
  · rintro (⟨cx, column, cy, row, _, hit⟩ | ⟨cx, column, cy, row, _, hit⟩)
    · exact ⟨cx, column, cy, row, hit⟩
    · exact ⟨cx, column, cy, row, (again cx cy).symm ▸ hit⟩
  · rintro ⟨cx, column, cy, row, hit⟩
    by_cases lit : screen.pixel cx cy = 1
    · exact .inl ⟨cx, column, cy, row, lit, hit⟩
    · -- the first one lights the pixel, which the second one then finds lit
      have dark := screen.pixel_le_one cx cy
      have once : hitCount stamp.x stamp.y stamp.sprite cx cy = 1 :=
        Nat.le_antisymm (hitCount_le_one _ _ short cx cy) hit
      refine .inr ⟨cx, column, cy, row, ?_, (again cx cy).symm ▸ hit⟩
      rw [pixel_drawSprite _ _ _ _ column row, once]
      omega

/-- Drawing in place draws the same. -/
theorem plotAll_cells (screen : Screen)
    (small : ∀ stamp ∈ stamps, stamp.sprite.length < 2 ^ 63) :
    Bare.plotAll (screen.cells.map Bare.cellByte) stamps =
      some ((screen.stampAll stamps).cells.map Bare.cellByte) := by
  refine Bare.foldlM_keeps_step (fun screen : Screen => screen.cells.map Bare.cellByte)
    (fun screen stamp member => ?_) screen
  have plotted := Bare.plotSprite_bytesOf (small stamp member) stamp.x stamp.y screen
  exact congrArg (Option.map (·.1)) plotted

/-- Whatever sprites are drawn and wherever, what is on the screen in the end does not depend on
their order, nor on whole screens by which any of them is moved; and drawing all of them once more,
in any order, leaves the screen as it was. Of a sprite no taller than the screen and a second one
that undoes it one collides exactly if a bit is set. Toggling bytes in place, sprite by sprite,
comes to the same screen. -/
theorem stamps_toggle (screen : Screen) (stamps : List Stamp) :
    (∀ shuffled, stamps.Perm shuffled → screen.stampAll shuffled = screen.stampAll stamps) ∧
    (∀ moved, List.Forall₂ Stamp.MovesTo stamps moved →
      screen.stampAll moved = screen.stampAll stamps) ∧
    (∀ shuffled, stamps.Perm shuffled → (screen.stampAll stamps).stampAll shuffled = screen) ∧
    (∀ stamp other : Stamp, stamp.sprite.length ≤ 32 → stamp.MovesTo other →
      ∀ first second, first = screen.drawSprite stamp.x stamp.y stamp.sprite →
        second = first.1.drawSprite other.x other.y other.sprite →
        ((first.2 = true ∨ second.2 = true) ↔ stamp.HasSetBit)) ∧
    ((∀ stamp ∈ stamps, stamp.sprite.length < 2 ^ 63) →
      Bare.plotAll (screen.cells.map Bare.cellByte) stamps =
        some ((screen.stampAll stamps).cells.map Bare.cellByte)) := by
  refine ⟨fun _ => stampAll_perm screen, fun _ => stampAll_moved screen, ?again, ?pair,
    plotAll_cells screen⟩
  case again =>
    intro shuffled same
    rw [stampAll_perm _ same, stampAll_stampAll]
  case pair =>
    rintro stamp other short moves _ _ rfl rfl
    exact collides_twice_iff screen short moves

/-- A sprite over the corner of the screen, one over its edge, and one taller than the screen. -/
def overlapping : List Stamp :=
  [⟨62, 31, [0xF0, 0xF0]⟩, ⟨0, 31, [0xFF]⟩, ⟨5, 2, tallSprite⟩]

def overlappingMoved : List Stamp :=
  [⟨126, 63, [0xF0, 0xF0]⟩, ⟨0, 31, [0xFF]⟩, ⟨197, 2, tallSprite⟩]

/-- In the other order the sprites light the same pixels, among them one at the corner, and put them
out again; and the one over the corner collides with itself. -/
theorem overlapping_toggles :
    (blank.stampAll overlapping).pixel 62 31 = 1 ∧
      blank.stampAll overlapping.reverse = blank.stampAll overlapping ∧
      blank.stampAll overlappingMoved = blank.stampAll overlapping ∧
      (blank.stampAll overlapping).stampAll overlapping.reverse = blank ∧
      ((blank.drawSprite 62 31 [0xF0, 0xF0]).1.drawSprite 126 63 [0xF0, 0xF0]).2 = true ∧
      Bare.plotAll (blank.cells.map Bare.cellByte) overlapping =
        some ((blank.stampAll overlapping).cells.map Bare.cellByte) := by
  have hits : (overlapping.map fun stamp => stamp.hitCount 62 31).sum = 1 := by decide +kernel
  have lit : (blank.stampAll overlapping).pixel 62 31 = 1 := by
    rw [pixel_stampAll _ _ (by decide) (by decide), hits, pixel, isLit_blank]
    rfl
  have alone : (blank.drawSprite 62 31 [0xF0, 0xF0]).2 = false := by decide +kernel
  have shuffled : overlapping.Perm overlapping.reverse := (List.reverse_perm _).symm
  have corner : Stamp.MovesTo ⟨62, 31, [0xF0, 0xF0]⟩ ⟨126, 63, [0xF0, 0xF0]⟩ :=
    ⟨rfl, ⟨1, rfl⟩, ⟨1, rfl⟩⟩
  have moved : List.Forall₂ Stamp.MovesTo overlapping overlappingMoved :=
    .cons corner (.cons (.refl _) (.cons ⟨rfl, ⟨3, rfl⟩, ⟨0, rfl⟩⟩ .nil))
  have set : (⟨62, 31, [0xF0, 0xF0]⟩ : Stamp).HasSetBit :=
    ⟨0xF0, by decide, 7, by decide, by decide⟩
  obtain ⟨order, screens, again, pair, inPlace⟩ := stamps_toggle blank overlapping
  have collides := (pair _ _ (by decide) corner _ _ rfl rfl).mpr set
  refine ⟨lit, order _ shuffled, screens _ moved, again _ shuffled, ?_, inPlace (by decide)⟩
  exact collides.resolve_left (by rw [alone]; exact Bool.false_ne_true)

end Screen
end Chip8
