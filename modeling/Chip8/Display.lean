import Chip8.Event
import Chip8.Text.Structural

/-!
# Display

A copy of the screen in which every pixel is a square of real pixels, and its image as bytes. The
copy follows the events of a machine; it is dirty while it was not rendered since its last change.
-/
namespace Chip8

structure Display where
  /-- Real pixels along the side of a pixel. -/
  scale : Nat
  /-- The screen that the display was given last. -/
  shown : Screen
  dirty : Bool
  scale_pos : 0 < scale := by omega
  deriving DecidableEq, Repr

namespace Display

def width (display : Display) : Nat := Screen.width * display.scale

def height (display : Display) : Nat := Screen.height * display.scale

/-- The real pixels, row by row: the one at column `X` and row `Y` belongs to the pixel at
`X / scale` and `Y / scale`. -/
def buffer (display : Display) : Array Bool :=
  Array.ofFn fun i : Fin (display.width * display.height) =>
    display.shown.isLit (i % display.width / display.scale) (i / display.width / display.scale)

theorem size_buffer (display : Display) :
    display.buffer.size = display.width * display.height := by
  simp [buffer]

/-- A dark display; a pixel is at least one real pixel wide. -/
def ofScale (scale : Nat) : Display where
  scale := max 1 scale
  shown := .blank
  dirty := true

def clear (display : Display) : Display :=
  { display with shown := .blank, dirty := true }

def present (display : Display) (screen : Screen) : Display :=
  { display with shown := screen, dirty := true }

def observe (display : Display) : Event → Display
  | .displayReset => display.clear
  | .screenShown screen => display.present screen
  | _ => display

def follow (display : Display) (events : List Event) : Display :=
  events.foldl observe display

/-- The colour of a lit pixel: red, green, blue and opacity. -/
def litColour : Array UInt8 := #[0xFF, 0xFF, 0xFF, 0xFF]

def darkColour : Array UInt8 := #[0x1A, 0x1A, 0x1A, 0xFF]

def colour (lit : Bool) : Array UInt8 :=
  if lit then litColour else darkColour

/-- The bytes of the first `count` real pixels. -/
def image (display : Display) (count : Nat) : Array UInt8 :=
  (display.buffer.extract 0 count).flatMap colour

def imageSize (display : Display) : Nat :=
  display.width * display.height * 4

/-- What rendering leaves: the display, the frame, and whether the image fitted. -/
structure Rendering where
  display : Display
  frame : Array UInt8
  complete : Bool
  deriving DecidableEq, Repr

/-- Writes the image to the start of a frame. A frame that is too short takes the pixels that fit
whole, and then the display stays as dirty as it was. -/
def render (display : Display) (frame : Array UInt8) : Rendering :=
  let image := display.image (frame.size / 4)
  let written := image ++ frame.extract image.size frame.size
  if display.imageSize ≤ frame.size then ⟨{ display with dirty := false }, written, true⟩
  else ⟨display, written, false⟩

def outline (display : Display) : String :=
  Text.Structural.record "VirtualDisplay" [
    ("scaled_width", Numeral.decimal display.width),
    ("scaled_height", Numeral.decimal display.height),
    ("scale_factor", Numeral.decimal display.scale),
    ("dirty", Text.Structural.bool display.dirty)]

end Display
end Chip8
