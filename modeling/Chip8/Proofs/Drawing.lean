import Chip8.Proofs.Devices
import Chip8.Proofs.Sprites

/-!
# Drawing, end to end

What a cycle does whose word is `DXYN`. Sprites of an instruction have at most fifteen rows, so they
hit no place twice: the places they cover are the ones that change, and a lit pixel has gone dark on
the way exactly where one is dark in the end. The origin is read before the flag is written, so the
flag register may give a coordinate as well.
-/
namespace Chip8

/-! ## Short sprites -/

namespace Screen

variable (screen : Screen) (x y : Nat) {sprite : List UInt8}

/-- A sprite no taller than the screen changes the pixels that it hits. -/
theorem pixel_drawSprite_ne_iff (short : sprite.length ≤ 32) {cx cy : Nat} (column : cx < 64)
    (row : cy < 32) :
    (screen.drawSprite x y sprite).1.pixel cx cy ≠ screen.pixel cx cy ↔
      1 ≤ hitCount x y sprite cx cy := by
  have lit := screen.pixel_le_one cx cy
  have once := hitCount_le_one x y short cx cy
  rw [pixel_drawSprite screen x y sprite column row]
  omega

/-- It makes a lit pixel go dark on the way where one is dark in the end. -/
theorem collided_drawSprite_iff_darkens (short : sprite.length ≤ 32) :
    (screen.drawSprite x y sprite).2 = true ↔ ∃ cx < 64, ∃ cy < 32,
      screen.pixel cx cy = 1 ∧ (screen.drawSprite x y sprite).1.pixel cx cy = 0 := by
  rw [collided_drawSprite_of_short screen x y short]
  refine exists_congr fun cx => and_congr_right fun column => exists_congr fun cy =>
    and_congr_right fun row => ?_
  have once := hitCount_le_one x y short cx cy
  rw [pixel_drawSprite screen x y sprite column row]
  omega

end Screen

namespace Machine

variable {machine : Machine}

/-- A set bit of the rows that the index register points at falls on a place of the screen when they
are drawn from the values of two registers on. -/
def Covers (machine : Machine) (x y : UInt8) (rows cx cy : Nat) : Prop :=
  ∃ r < rows, ∃ bit < 8,
    (∃ byte, machine.memory.read (machine.index.toNat + r) = .ok byte ∧
      byte.toNat.testBit (7 - bit) = true) ∧
    cx = ((machine.reg x).toNat + bit) % 64 ∧ cy = ((machine.reg y).toNat + r) % 32

/-- A pixel that was lit on one machine is dark on the other. -/
def Darkened (before after : Machine) : Prop :=
  ∃ cx < 64, ∃ cy < 32, before.screen.pixel cx cy = 1 ∧ after.screen.pixel cx cy = 0

/-! ## The rows of the sprite -/

/-- Rows within memory, or no rows at all, are read byte by byte. -/
theorem sprite_ok {n : UInt8}
    (inside : n.toNat = 0 ∨ machine.index.toNat + n.toNat ≤ Memory.size) :
    ∃ rows, machine.sprite n = .ok rows ∧ rows.length = n.toNat ∧
      ∀ r < n.toNat, machine.memory.read (machine.index.toNat + r) = .ok (rows.getD r 0) := by
  by_cases zero : n = 0
  · subst zero
    exact ⟨[], rfl, rfl, fun r small => absurd small (Nat.not_lt_zero r)⟩
  · have positive : n.toNat ≠ 0 := fun none => zero (UInt8.toNat_inj.mp none)
    have fits := inside.resolve_left positive
    refine ⟨_, by rw [sprite, if_neg zero, Memory.readRange, dif_pos fits], by simp, ?_⟩
    intro r small
    have readable : machine.index.toNat + r < Memory.size := by omega
    rw [Memory.read_ok readable]
    simp [small, Vector.get]

/-- The places that the rows hit are the covered ones. -/
theorem hitCount_pos_iff_covers {x y n : UInt8} {rows : List UInt8} {cx cy : Nat}
    (length : rows.length = n.toNat)
    (bytes : ∀ r < n.toNat,
      machine.memory.read (machine.index.toNat + r) = .ok (rows.getD r 0)) :
    1 ≤ Screen.hitCount (machine.reg x).toNat (machine.reg y).toNat rows cx cy ↔
      machine.Covers x y n.toNat cx cy := by
  rw [Screen.hitCount_pos_iff, length, Covers]
  refine exists_congr fun r => and_congr_right fun small => exists_congr fun bit =>
    and_congr_right fun _ => ?_
  have byte : (∃ byte, machine.memory.read (machine.index.toNat + r) = .ok byte ∧
      byte.toNat.testBit (7 - bit) = true) ↔ (rows.getD r 0).toNat.testBit (7 - bit) = true := by
    simp [bytes r small]
  rw [byte]
  refine and_congr_right fun _ => ?_
  omega

/-! ## The cycle -/

/-- A cycle that draws: its result, and the machine after it up to the timers. -/
theorem step_draw {x y n : UInt8} {rows : List UInt8} (free : machine.keyWait = none)
    (hx : x.toNat < 16) (hy : y.toNat < 16) (hn : n.toNat < 16)
    (held : machine.memory.HoldsWord machine.counter.toNat
      (Instruction.nibbles 0xD x.toNat y.toNat n.toNat))
    (read : machine.sprite n = .ok rows) :
    let drawn := machine.screen.drawSprite (machine.reg x).toNat (machine.reg y).toNat rows
    machine.step.result = .ok (.executed (.draw x y n)) ∧
      ∃ delay sound divider, machine.step.machine = { machine with
        screen := drawn.1
        registers := machine.registers.setFlag drawn.2
        counter := machine.counter + 2
        delay := delay
        sound := sound
        divider := divider } := by
  intro drawn
  have fetched := Memory.readWord_eq_ok_iff.mpr held
  have known := Instruction.ofWord?_encode (.draw x y n) ⟨hx, hy, hn⟩
  have done : machine.execute (.draw x y n) = .ok (proceed { machine with
      screen := drawn.1, registers := machine.registers.setFlag drawn.2 }) := by
    rw [execute, read]
    rfl
  rw [step_of_executes free fetched known done, counted]
  obtain ⟨delay, sound, divider, same⟩ := countCycle_eq (machine.moved (proceed { machine with
    screen := drawn.1, registers := machine.registers.setFlag drawn.2 }))
  exact ⟨rfl, delay, sound, divider, same⟩

/-- A cycle of a machine that waits for no key and whose word is `DXYN`, with rows that lie within
memory or no rows at all. It makes the flag register one if a pixel that was lit is dark now, and
zero otherwise; it changes the pixels that the sprite covers from where the two registers said
before, and no others; no other register, not the index register, not memory and not the stack
change; the program counter moves on by one word; and the display is given the screen as it is then,
once. -/
theorem draw_end_to_end {x y n : UInt8} (free : machine.keyWait = none)
    (hx : x.toNat < 16) (hy : y.toNat < 16) (hn : n.toNat < 16)
    (held : machine.memory.HoldsWord machine.counter.toNat
      (Instruction.nibbles 0xD x.toNat y.toNat n.toNat))
    (inside : n.toNat = 0 ∨ machine.index.toNat + n.toNat ≤ 4096) :
    ∃ after, machine.step.machine = after ∧
      machine.step.result = .ok (.executed (.draw x y n)) ∧
      (after.reg 0xF = 1 ∧ machine.Darkened after ∨ after.reg 0xF = 0 ∧ ¬ machine.Darkened after) ∧
      (∀ cx < 64, ∀ cy < 32, after.screen.pixel cx cy ≠ machine.screen.pixel cx cy ↔
        machine.Covers x y n.toNat cx cy) ∧
      (∀ z : UInt8, z.toNat < 16 → z ≠ 0xF → after.reg z = machine.reg z) ∧
      after.index = machine.index ∧ after.memory = machine.memory ∧
      after.stack = machine.stack ∧
      after.counter.toNat = machine.counter.toNat + 2 ∧
      machine.step.events.filterMap Event.displayCall? = [.draw after.screen] := by
  obtain ⟨rows, read, length, bytes⟩ := sprite_ok inside
  have short : rows.length ≤ 32 := by omega
  have readable := readable_of_readWord (Memory.readWord_eq_ok_iff.mpr held)
  obtain ⟨result, delay, sound, divider, stepped⟩ := step_draw free hx hy hn held read
  refine ⟨_, stepped, result, ?flag, ?pixels, ?others, rfl, rfl, rfl, ?counter, ?shown⟩
  case flag =>
    rw [Darkened, ← Screen.collided_drawSprite_iff_darkens _ _ _ short]
    have last : (0xF : UInt8).toNat < 16 := by decide
    simp only [reg, Registers.get_setFlag machine.registers _ last]
    cases (machine.screen.drawSprite (machine.registers.get x).toNat
      (machine.registers.get y).toNat rows).2 with
    | true => exact .inl ⟨rfl, rfl⟩
    | false => exact .inr ⟨rfl, Bool.false_ne_true⟩
  case pixels =>
    intro cx column cy row
    rw [← hitCount_pos_iff_covers length bytes]
    exact Screen.pixel_drawSprite_ne_iff _ _ _ short column row
  case others =>
    intro z hz other
    show (machine.registers.setFlag _).get z = _
    rw [Registers.get_setFlag _ _ hz, if_neg other]
    rfl
  case counter =>
    simp only [UInt16.toNat_add, UInt16.reduceToNat]
    omega
  case shown =>
    rw [(step_calls machine).1, displayCall?_step, result, stepped]
    rfl

/-- A machine that draws a row of a glyph from the place that the flag register names. -/
def edgeGlyph : Machine :=
  ((powerOn 500 (.constant 0)).load [0xDF, 0xF1]).machine.setReg 0xF 62

/-- The flag register says 62 for both coordinates, so the four pixels of the row pass the right
edge, and then it says that no pixel went dark. -/
theorem edgeGlyph_draws :
    edgeGlyph.step.machine.reg 0xF = 0 ∧ edgeGlyph.step.machine.screen.pixel 1 30 = 1 ∧
      edgeGlyph.step.machine.screen.pixel 2 30 = 0 ∧
      edgeGlyph.step.machine.counter.toNat = 0x202 := by
  have looks : ((edgeGlyph.memory.readWord 0x200).toOption, (edgeGlyph.memory.read 0).toOption,
      (edgeGlyph.reg 0xF).toNat) = (some 0xDFF1, some 0xF0, 62) := by
    decide +kernel
  simp only [Prod.mk.injEq] at looks
  obtain ⟨word, byte, origin⟩ := looks
  have held : edgeGlyph.memory.HoldsWord edgeGlyph.counter.toNat
      (Instruction.nibbles 0xD (0xF : UInt8).toNat (0xF : UInt8).toNat (1 : UInt8).toNat) :=
    Memory.readWord_eq_ok_iff.mp (ok_of_toOption word)
  have inside : edgeGlyph.index.toNat + (1 : UInt8).toNat ≤ 4096 := by decide
  have dark : ∀ cx cy, edgeGlyph.screen.pixel cx cy = 0 := fun cx cy => by
    show Screen.blank.pixel cx cy = 0
    simp [Screen.pixel]
  have row : edgeGlyph.memory.read (edgeGlyph.index.toNat + 0) = .ok 0xF0 := ok_of_toOption byte
  obtain ⟨after, stepped, _, flag, pixels, _, _, _, _, moved, _⟩ :=
    draw_end_to_end rfl (by decide : (0xF : UInt8).toNat < 16)
      (by decide : (0xF : UInt8).toNat < 16) (by decide : (1 : UInt8).toNat < 16) held
      (.inr inside)
  have covered : edgeGlyph.Covers 0xF 0xF (1 : UInt8).toNat 1 30 :=
    ⟨0, by decide, 3, by decide, ⟨0xF0, row, by decide⟩, by rw [origin], by rw [origin]⟩
  have outside : ¬ edgeGlyph.Covers 0xF 0xF (1 : UInt8).toNat 2 30 := by
    rintro ⟨r, single, bit, _, ⟨byte, found, set⟩, column, _⟩
    have first : r = 0 := Nat.lt_one_iff.mp single
    subst first
    rw [origin] at column
    have fourth : bit = 4 := by omega
    cases row.symm.trans found
    subst fourth
    exact absurd set (by decide)
  have changed := (pixels 1 (by decide) 30 (by decide)).mpr covered
  have kept := mt (pixels 2 (by decide) 30 (by decide)).mp outside
  rw [stepped]
  rw [dark] at changed kept
  refine ⟨?_, ?_, not_not.mp kept, moved⟩
  · rcases flag with ⟨_, cx, _, cy, _, lit, _⟩ | ⟨zero, _⟩
    · rw [dark] at lit
      cases lit
    · exact zero
  · have lit := after.screen.pixel_le_one 1 30
    omega

/-- A machine that waits for a key and whose next word is `D001`. -/
def waitingToDraw : Machine :=
  (powerOn 500 (.constant 0)).run [.load [0xF0, 0x0A, 0xD0, 0x01], .step]

/-- While a key is awaited the word is not read: nothing is drawn, and the program counter stays. -/
theorem waitingToDraw_waits : Reachable waitingToDraw ∧
    waitingToDraw.memory.HoldsWord waitingToDraw.counter.toNat (Instruction.nibbles 0xD 0 0 1) ∧
    waitingToDraw.index.toNat + 1 ≤ 4096 ∧ waitingToDraw.Covers 0 0 1 0 0 ∧
    waitingToDraw.step.machine.screen.pixel 0 0 = waitingToDraw.screen.pixel 0 0 ∧
    waitingToDraw.step.machine.counter.toNat ≠ waitingToDraw.counter.toNat + 2 ∧
    waitingToDraw.step.events.filterMap Event.displayCall? = [] := by
  have reachable : Reachable waitingToDraw :=
    Reachable.run (.start 500 (.constant 0)) [.load [0xF0, 0x0A, 0xD0, 0x01], .step]
  have looks : (waitingToDraw.keyWait, waitingToDraw.counter.toNat, waitingToDraw.index.toNat,
      (waitingToDraw.memory.readWord 0x202).toOption, (waitingToDraw.memory.read 0).toOption,
      (waitingToDraw.reg 0).toNat) = (some 0, 0x202, 0, some 0xD001, some 0xF0, 0) := by
    decide +kernel
  simp only [Prod.mk.injEq] at looks
  obtain ⟨waiting, counter, index, word, byte, origin⟩ := looks
  have stepped := step_of_waiting waiting
  refine ⟨reachable, ?held, ?inside, ?covered, ?screen, ?counter, ?calls⟩
  case held =>
    rw [counter]
    exact Memory.readWord_eq_ok_iff.mp (ok_of_toOption word)
  case inside =>
    rw [index]
    decide
  case covered =>
    have row : waitingToDraw.memory.read (waitingToDraw.index.toNat + 0) = .ok 0xF0 := by
      rw [index]
      exact ok_of_toOption byte
    exact ⟨0, by decide, 0, by decide, ⟨0xF0, row, by decide⟩, by rw [origin], by rw [origin]⟩
  case screen => rw [stepped, counted, countCycle_screen]
  case counter =>
    rw [stepped, counted, countCycle_counter]
    omega
  case calls => rw [stepped, (counted_calls _ _ _).1]; rfl

end Machine
end Chip8
