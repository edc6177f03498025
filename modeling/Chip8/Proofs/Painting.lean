import Chip8.Proofs.Bare.Answers
import Chip8.Proofs.Repaint

/-!
# Painting frames

Rendering as a loop: it goes through the real pixels and writes the four bytes of each to the frame,
in place, until one does not fit. What it leaves is the frame that rendering answers with, also when
the loop breaks off. Then the pixels that fit whole have been painted, and every byte behind them is
what it was.
-/
namespace Chip8

/-! ## Painting in place -/

namespace Panel

/-- The colour of a real pixel as one number. -/
def colourWord (lit : Bool) : UInt32 :=
  if lit then 0xFFFFFFFF else 0x1A1A1AFF

/-- The bytes of a number, most significant first. -/
def bigEndian (word : UInt32) : List UInt8 :=
  [(word >>> 24).toUInt8, (word >>> 16).toUInt8, (word >>> 8).toUInt8, word.toUInt8]

def put (frame : Array UInt8) (start : Nat) : List UInt8 → Array UInt8
  | [] => frame
  | byte :: rest => put (frame.setIfInBounds start byte) (start + 1) rest

/-- Paints real pixels one after another, the first of them with some number, until one does not fit
whole into the frame; the flag says whether all did. There is no answer where a place in the frame
is no number of 64 bits. -/
def paint (frame : Array UInt8) (index : Nat) : List Bool → Option (Array UInt8 × Bool)
  | [] => some (frame, true)
  | lit :: rest => do
    let start ← Bare.size? (index * 4)
    let stop ← Bare.size? (start + 4)
    if stop ≤ frame.size then paint (put frame start (bigEndian (colourWord lit))) (index + 1) rest
    else return (frame, false)

theorem bigEndian_colourWord (lit : Bool) :
    bigEndian (colourWord lit) = (Display.colour lit).toList := by
  cases lit <;> rfl

/-- One round of painting, with no place that is too large a number. -/
theorem paint_cons {index : Nat} (small : (index + 1) * 4 < 0x10000000000000000)
    (frame : Array UInt8) (lit : Bool) (later : List Bool) :
    paint frame index (lit :: later) =
      if index * 4 + 4 ≤ frame.size then
        paint (put frame (index * 4) (Display.colour lit).toList) (index + 1) later
      else some (frame, false) := by
  have start : Bare.size? (index * 4) = some (index * 4) := Bare.size?_eq (by omega)
  have stop : Bare.size? (index * 4 + 4) = some (index * 4 + 4) := Bare.size?_eq (by omega)
  simp only [paint, start, stop, Option.bind_eq_bind, Option.bind_some, bigEndian_colourWord,
    Option.pure_def]

/-- Bytes that are put over as many others. -/
theorem toList_put {frame : Array UInt8} {front old behind : List UInt8} (bytes : List UInt8)
    (held : frame.toList = front ++ (old ++ behind)) (same : old.length = bytes.length) :
    (put frame front.length bytes).toList = front ++ (bytes ++ behind) := by
  induction bytes generalizing frame front old with
  | nil =>
    rw [List.length_eq_zero_iff.mp same] at held
    exact held
  | cons byte rest ih =>
    obtain ⟨first, others, rfl⟩ := List.exists_cons_of_length_eq_add_one same
    have next : (frame.setIfInBounds front.length byte).toList =
        (front ++ [byte]) ++ (others ++ behind) := by
      rw [Array.toList_setIfInBounds, held]
      simp
    have later := ih next (Nat.succ_inj.mp same)
    rw [List.length_append, List.length_singleton] at later
    rw [put, later]
    simp

def imageBytes (pixels : List Bool) : List UInt8 :=
  pixels.flatMap fun lit => (Display.colour lit).toList

theorem length_imageBytes (pixels : List Bool) : (imageBytes pixels).length = pixels.length * 4 := by
  have four : ∀ lit, (Display.colour lit).toList.length = 4 := fun lit => Display.size_colour lit
  simp only [imageBytes, List.length_flatMap, four, List.map_const', List.sum_replicate_nat]

theorem imageBytes_concat (pixels : List Bool) (lit : Bool) :
    imageBytes (pixels ++ [lit]) = imageBytes pixels ++ (Display.colour lit).toList := by
  simp [imageBytes]

section Loop

variable {frame : Array UInt8} {done : List Bool} {rest : List UInt8}

theorem size_of_held (held : frame.toList = imageBytes done ++ rest) :
    frame.size = done.length * 4 + rest.length := by
  rw [← Array.length_toList, held, List.length_append, length_imageBytes]

/-- A pixel that fits is painted behind those that are done, and the others follow. -/
theorem paint_of_fits {old : List UInt8} (lit : Bool) (later : List Bool)
    (held : frame.toList = imageBytes done ++ (old ++ rest)) (four : old.length = 4)
    (small : (done.length + 1) * 4 < 0x10000000000000000) :
    ∃ next, paint frame done.length (lit :: later) = paint next (done ++ [lit]).length later ∧
      next.toList = imageBytes (done ++ [lit]) ++ rest := by
  have size := size_of_held held
  rw [List.length_append, four] at size
  have room : done.length * 4 + 4 ≤ frame.size := by omega
  have painted := toList_put (Display.colour lit).toList held
    (four.trans (Display.size_colour lit).symm)
  rw [length_imageBytes, ← List.append_assoc, ← imageBytes_concat] at painted
  refine ⟨_, ?_, painted⟩
  rw [paint_cons small, if_pos room, List.length_append, List.length_singleton]

/-- Where a pixel does not fit painting breaks off. -/
theorem paint_of_short (lit : Bool) (later : List Bool)
    (held : frame.toList = imageBytes done ++ rest) (short : rest.length < 4)
    (small : (done.length + 1) * 4 < 0x10000000000000000) :
    paint frame done.length (lit :: later) = some (frame, false) := by
  have size := size_of_held held
  have full : ¬ done.length * 4 + 4 ≤ frame.size := by omega
  rw [paint_cons small, if_neg full]

/-- Painting goes on behind the pixels that are done, as far as whole pixels fit. -/
theorem paint_eq (pixels : List Bool) (held : frame.toList = imageBytes done ++ rest)
    (small : (done.length + pixels.length) * 4 < 0x10000000000000000) :
    ∃ after, paint frame done.length pixels =
        some (after, decide (pixels.length * 4 ≤ rest.length)) ∧
      after.toList = imageBytes (done ++ pixels.take (rest.length / 4)) ++
        rest.drop (min (rest.length / 4) pixels.length * 4) := by
  -- the frame starts with the bytes of what is done, and `rest` is not painted over yet
  induction pixels generalizing frame done rest with
  | nil => exact ⟨frame, by simp [paint], by simpa using held⟩
  | cons lit later ih =>
    rw [List.length_cons] at small
    by_cases fits : 4 ≤ rest.length
    · obtain ⟨old, behind, rfl, four⟩ : ∃ old behind, rest = old ++ behind ∧ old.length = 4 :=
        ⟨_, _, (List.take_append_drop 4 rest).symm, List.length_take_of_le fits⟩
      obtain ⟨next, goes, bytes⟩ := paint_of_fits lit later held four (by omega)
      obtain ⟨after, painted, left⟩ := ih bytes (by
        rw [List.length_append, List.length_singleton]
        omega)
      have length : (old ++ behind).length = behind.length + 4 := by
        rw [List.length_append, four, Nat.add_comm]
      have quarter : (behind.length + 4) / 4 = behind.length / 4 + 1 := by omega
      refine ⟨after, ?_, ?_⟩
      · rw [goes, painted, length, List.length_cons, Nat.succ_mul]
        simp only [Nat.add_le_add_iff_right]
      · rw [left, length, quarter, List.length_cons, Nat.add_min_add_right, Nat.succ_mul,
          List.take_succ_cons, List.append_assoc, List.singleton_append, ← four, Nat.add_comm,
          List.drop_length_add_append]
    · have none : rest.length / 4 = 0 := by omega
      have late : ¬ (later.length + 1) * 4 ≤ rest.length := by omega
      refine ⟨frame, ?_, ?_⟩
      · rw [paint_of_short lit later held (Nat.lt_of_not_le fits) (by omega), List.length_cons,
          decide_eq_false late]
      · rw [held, none]
        simp

end Loop

end Panel

/-! ## Rendering -/

/-- Of the real pixels of a screen, numbered row by row, those before a number are painted in a
frame: white if the pixel is lit that they belong to and dark grey otherwise. -/
def Screen.PaintsBefore (screen : Screen) (scale count : Nat) (frame : Array UInt8) : Prop :=
  ∀ X Y, X < 64 * scale → Y < 32 * scale → Y * (64 * scale) + X < count →
    frame.extract (4 * (Y * (64 * scale) + X)) (4 * (Y * (64 * scale) + X) + 4) =
      if screen.pixel (X / scale) (Y / scale) = 1 then #[0xFF, 0xFF, 0xFF, 0xFF]
      else #[0x1A, 0x1A, 0x1A, 0xFF]

namespace Display

theorem toList_image (display : Display) (count : Nat) :
    (display.image count).toList = Panel.imageBytes (display.buffer.toList.take count) := by
  rw [image, Array.toList_flatMap, Array.toList_extract, List.extract_eq_take_drop, List.drop_zero,
    Nat.sub_zero]
  rfl

/-- Painting the real pixels in place comes to what rendering answers. -/
theorem paint_buffer (display : Display) (frame : Array UInt8)
    (small : display.imageSize < 0x10000000000000000) :
    Panel.paint frame 0 display.buffer.toList =
      some ((display.render frame).frame, (display.render frame).complete) := by
  have count : display.buffer.toList.length = display.width * display.height := by
    rw [Array.length_toList, size_buffer]
  have held : frame.toList = Panel.imageBytes [] ++ frame.toList := rfl
  obtain ⟨after, painted, bytes⟩ := Panel.paint_eq display.buffer.toList held (by
    rw [List.length_nil, Nat.zero_add, count]
    exact small)
  have same : after = (display.render frame).frame := by
    have whole : ∀ k, (frame.toList.drop k).take (frame.size - k) = frame.toList.drop k :=
      fun k => List.take_of_length_le (Nat.le_of_eq (by rw [List.length_drop, Array.length_toList]))
    rw [← Array.toList_inj, bytes, render_frame, Array.toList_append, toList_image,
      Array.toList_extract, List.extract_eq_take_drop, size_image, whole, List.nil_append,
      Array.length_toList, Array.length_toList]
  rw [← same, render_complete, imageSize, ← count, ← Array.length_toList]
  exact painted

/-- The bytes of a frame behind the pixels that were painted are what they were. -/
theorem getElem?_render_behind (display : Display) (frame : Array UInt8) {j : Nat}
    (behind : min (frame.size / 4) (display.width * display.height) * 4 ≤ j) :
    (display.render frame).frame[j]? = frame[j]? := by
  rw [← size_buffer, ← size_image] at behind
  rw [render_frame, Array.getElem?_append_right behind, Array.getElem?_extract,
    Nat.add_sub_cancel' behind]
  split
  · rfl
  · symm
    rw [Array.getElem?_eq_none_iff]
    omega

theorem paintsBefore_render (display : Display) (frame : Array UInt8) :
    display.shown.PaintsBefore display.scale (frame.size / 4) (display.render frame).frame := by
  intro X Y column row before
  have fits : 4 * (Y * display.width + X) + 4 ≤ frame.size := by
    have quarter : Y * display.width + X < frame.size / 4 := before
    omega
  exact display.extract_render_at column row fits

/-- Rendering a display of some scale that was just given a screen. A frame with room for the whole
image becomes the picture of the screen, with the bytes behind it as they were, and the display is
no longer dirty. In a frame that is too short just the pixels that fit whole are painted, the bytes
behind them are as they were, and the display stays dirty. Painting the stored pixels in place, one
after another until one does not fit, comes to the same. -/
theorem render_exact (screen : Screen) (frame : Array UInt8) {scale : Nat} (positive : 1 ≤ scale) :
    ∃ rendering, rendering = ((ofScale scale).present screen).render frame ∧
      (64 * scale * (32 * scale) * 4 ≤ frame.size →
        rendering.complete = true ∧ rendering.display.dirty = false ∧
        screen.Paints scale rendering.frame ∧
        ∀ j, 64 * scale * (32 * scale) * 4 ≤ j → rendering.frame[j]? = frame[j]?) ∧
      (frame.size < 64 * scale * (32 * scale) * 4 →
        rendering.complete = false ∧ rendering.display.dirty = true ∧
        screen.PaintsBefore scale (frame.size / 4) rendering.frame ∧
        ∀ j, 4 * (frame.size / 4) ≤ j → rendering.frame[j]? = frame[j]?) ∧
      (64 * scale * (32 * scale) * 4 < 0x10000000000000000 →
        Panel.paint frame 0 ((Panel.ofScale scale).draw screen).pixels.toList =
          some (rendering.frame, rendering.complete)) := by
  have stores := (Panel.ofScale_stores scale).draw screen
  generalize shape : (ofScale scale).present screen = display at stores ⊢
  have dirty : display.dirty = true := by rw [← shape]; rfl
  have shown : display.shown = screen := by rw [← shape]; rfl
  have side : display.scale = scale := by rw [← shape]; exact Nat.max_eq_right positive
  have size : display.imageSize = 64 * scale * (32 * scale) * 4 := by
    rw [imageSize, width, height, side]
  have complete := display.render_complete frame
  rw [size] at complete
  refine ⟨_, rfl, ?whole, ?short, ?inPlace⟩
  case whole =>
    intro room
    rw [decide_eq_true room] at complete
    have paints := display.paints_of_complete complete
    rw [shown, side] at paints
    refine ⟨complete, ?_, paints, fun j behind => ?_⟩
    · rw [render_display, complete]
      rfl
    · exact display.getElem?_render_behind frame (by rw [imageSize] at size; omega)
  case short =>
    intro tight
    rw [decide_eq_false (Nat.not_le.mpr tight)] at complete
    have paints := display.paintsBefore_render frame
    rw [shown, side] at paints
    refine ⟨complete, ?_, paints, fun j behind => ?_⟩
    · rw [render_display, complete, dirty]
      rfl
    · exact display.getElem?_render_behind frame (by omega)
  case inPlace =>
    intro small
    rw [stores.pixels]
    exact display.paint_buffer frame (size ▸ small)

def oneLit : Screen := (Screen.blank.drawSprite 1 0 [0x80]).1

/-- Three real pixels wide, the lit pixel starts with the fourth real pixel. A frame of 18 bytes
takes just that many, and one with three bytes to spare keeps these. -/
theorem oneLit_painted : 1 ≤ 3 ∧ ∃ short whole,
    short = ((ofScale 3).present oneLit).render (.replicate 18 7) ∧
    whole = ((ofScale 3).present oneLit).render (.replicate 73731 7) ∧
    short.complete = false ∧ short.frame.extract 12 16 = #[0xFF, 0xFF, 0xFF, 0xFF] ∧
    short.frame[17]? = some 7 ∧ short.display.dirty = true ∧
    whole.frame.extract 8 12 = #[0x1A, 0x1A, 0x1A, 0xFF] ∧
    whole.frame.extract 12 16 = #[0xFF, 0xFF, 0xFF, 0xFF] ∧
    whole.frame[73730]? = some 7 ∧ whole.display.dirty = false := by
  have three : 1 ≤ 3 := by decide
  have pixels : oneLit.pixel 0 0 = 0 ∧ oneLit.pixel 1 0 = 1 := by decide +kernel
  obtain ⟨short, isShort, _, tight, _⟩ := render_exact oneLit (.replicate 18 7) three
  obtain ⟨whole, isWhole, room, _, _⟩ := render_exact oneLit (.replicate 73731 7) three
  rw [Array.size_replicate] at tight room
  obtain ⟨broken, dirty, painted, kept⟩ := tight (by decide)
  obtain ⟨_, clean, paints, spared⟩ := room (by decide)
  have fourth := painted 3 0 (by decide) (by decide) (by decide)
  have third' := paints 2 0 (by decide) (by decide)
  have fourth' := paints 3 0 (by decide) (by decide)
  rw [if_pos pixels.2] at fourth fourth'
  rw [if_neg (by rw [pixels.1]; decide)] at third'
  refine ⟨three, short, whole, isShort, isWhole, broken, fourth, ?_, dirty, third', fourth', ?_,
    clean⟩
  · rw [kept 17 (by decide), Array.getElem?_replicate]
    rfl
  · rw [spared 73730 (by decide), Array.getElem?_replicate]
    rfl

end Display
end Chip8
