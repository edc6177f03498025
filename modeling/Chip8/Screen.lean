/-!
# Screen

The screen of 64 by 32 pixels, held row by row. A sprite is a list of bytes, one for each row of
eight pixels, leftmost pixel first. Drawing it toggles every cell that a set bit falls on: the
origin is reduced to the screen and what passes an edge comes in on the other side.
-/
namespace Chip8

abbrev Screen.width : Nat := 64

abbrev Screen.height : Nat := 32

structure Screen where
  cells : Vector Bool (Screen.height * Screen.width)
  deriving DecidableEq, Repr

namespace Screen

/-- A cell of the screen, counted row by row. -/
abbrev Cell := Fin (height * width)

/-- The cell at a place; coordinates wrap around the edges. -/
def cellAt (x y : Nat) : Cell :=
  ⟨y % height * width + x % width, by
    have hx : x % 64 < 64 := Nat.mod_lt _ (by decide)
    have hy : y % 32 < 32 := Nat.mod_lt _ (by decide)
    show y % 32 * 64 + x % 64 < 32 * 64
    omega⟩

def blank : Screen := ⟨Vector.replicate (height * width) false⟩

def isLit (screen : Screen) (x y : Nat) : Bool :=
  screen.cells.get (cellAt x y)

@[simp] theorem isLit_blank (x y : Nat) : blank.isLit x y = false := by
  simp [isLit, blank, Vector.get]

def pixel (screen : Screen) (x y : Nat) : Nat :=
  (screen.isLit x y).toNat

def litCount (screen : Screen) : Nat :=
  screen.cells.toList.count true

/-- The columns of the set bits of a sprite row. -/
def setColumns (row : UInt8) : List Nat :=
  (List.range 8).filter fun bit => row.toNat.testBit (7 - bit)

/-- The cells that the set bits of a sprite fall on, with repetitions. -/
def hits (x y : Nat) (sprite : List UInt8) : List Cell :=
  sprite.zipIdx.flatMap fun (row, r) =>
    (setColumns row).map fun bit => cellAt (x % width + bit) (y % height + r)

/-- Toggles one cell, and remembers whether a lit pixel went dark. -/
def toggle (state : Screen × Bool) (cell : Cell) : Screen × Bool :=
  let lit := state.1.cells.get cell
  (⟨state.1.cells.set cell (!lit)⟩, state.2 || lit)

/-- Toggles a sprite into the screen; the flag says whether a lit pixel went dark on the way. -/
def drawSprite (screen : Screen) (x y : Nat) (sprite : List UInt8) : Screen × Bool :=
  (hits x y sprite).foldl toggle (screen, false)

/-- The pixels of a row from the left. -/
def row (screen : Screen) (y : Nat) : List Bool :=
  (List.range width).map fun x => screen.isLit x y

/-- A row as text, lit pixels as `#` and dark ones as `.`. -/
def rowText (screen : Screen) (y : Nat) : String :=
  String.ofList ((screen.row y).map fun lit => if lit then '#' else '.')

def outline (screen : Screen) : String :=
  String.join ((List.range height).map fun y => screen.rowText y ++ "\n")

end Screen
end Chip8
