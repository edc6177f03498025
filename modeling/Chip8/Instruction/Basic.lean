import Chip8.Instruction.Opcode

/-!
# Instructions

The 34 instructions with their operands, and which word stands for which. Register operands are
numbers `0` to `F` of the registers `V0` to `VF`. Words outside the set are no instruction, among
them every word `0NNN` except `00E0` and `00EE`.
-/
namespace Chip8

inductive Instruction where
  /-- `00E0` -/
  | clearScreen
  /-- `00EE` -/
  | subReturn
  /-- `1NNN` -/
  | jump (target : UInt16)
  /-- `2NNN` -/
  | call (target : UInt16)
  /-- `3XNN` -/
  | skipIfEqualByte (x byte : UInt8)
  /-- `4XNN` -/
  | skipIfNotEqualByte (x byte : UInt8)
  /-- `5XY0` -/
  | skipIfEqual (x y : UInt8)
  /-- `6XNN` -/
  | loadByte (x byte : UInt8)
  /-- `7XNN` -/
  | addByte (x byte : UInt8)
  /-- `8XY0` -/
  | copy (x y : UInt8)
  /-- `8XY1` -/
  | or (x y : UInt8)
  /-- `8XY2` -/
  | and (x y : UInt8)
  /-- `8XY3` -/
  | xor (x y : UInt8)
  /-- `8XY4` -/
  | add (x y : UInt8)
  /-- `8XY5` -/
  | sub (x y : UInt8)
  /-- `8XY6` -/
  | shiftRight (x : UInt8)
  /-- `8XY7` -/
  | subReverse (x y : UInt8)
  /-- `8XYE` -/
  | shiftLeft (x : UInt8)
  /-- `9XY0` -/
  | skipIfNotEqual (x y : UInt8)
  /-- `ANNN` -/
  | loadIndex (address : UInt16)
  /-- `BNNN` -/
  | jumpOffset (base : UInt16)
  /-- `CXNN` -/
  | random (x mask : UInt8)
  /-- `DXYN` -/
  | draw (x y rows : UInt8)
  /-- `EX9E` -/
  | skipIfKeyPressed (x : UInt8)
  /-- `EXA1` -/
  | skipIfKeyNotPressed (x : UInt8)
  /-- `FX07` -/
  | loadDelay (x : UInt8)
  /-- `FX0A` -/
  | waitForKey (x : UInt8)
  /-- `FX15` -/
  | setDelay (x : UInt8)
  /-- `FX18` -/
  | setSound (x : UInt8)
  /-- `FX1E` -/
  | addIndex (x : UInt8)
  /-- `FX29` -/
  | loadGlyph (x : UInt8)
  /-- `FX33` -/
  | storeDigits (x : UInt8)
  /-- `FX55` -/
  | storeRegisters (x : UInt8)
  /-- `FX65` -/
  | loadRegisters (x : UInt8)
  deriving DecidableEq, Repr

namespace Instruction

/-- The instruction of kind `0` with these twelve bits. -/
def control? (nnn : UInt16) : Option Instruction :=
  match nnn.toNat with
  | 0x0E0 => some .clearScreen
  | 0x0EE => some .subReturn
  | _ => none

/-- The instruction of kind `8` that the last nibble selects. -/
def arithmetic? (x y n : UInt8) : Option Instruction :=
  match n.toNat with
  | 0x0 => some (.copy x y)
  | 0x1 => some (.or x y)
  | 0x2 => some (.and x y)
  | 0x3 => some (.xor x y)
  | 0x4 => some (.add x y)
  | 0x5 => some (.sub x y)
  | 0x6 => some (.shiftRight x)
  | 0x7 => some (.subReverse x y)
  | 0xE => some (.shiftLeft x)
  | _ => none

/-- The instruction of kind `E` that the last byte selects. -/
def keySkip? (x nn : UInt8) : Option Instruction :=
  match nn.toNat with
  | 0x9E => some (.skipIfKeyPressed x)
  | 0xA1 => some (.skipIfKeyNotPressed x)
  | _ => none

/-- The instruction of kind `F` that the last byte selects. -/
def transfer? (x nn : UInt8) : Option Instruction :=
  match nn.toNat with
  | 0x07 => some (.loadDelay x)
  | 0x0A => some (.waitForKey x)
  | 0x15 => some (.setDelay x)
  | 0x18 => some (.setSound x)
  | 0x1E => some (.addIndex x)
  | 0x29 => some (.loadGlyph x)
  | 0x33 => some (.storeDigits x)
  | 0x55 => some (.storeRegisters x)
  | 0x65 => some (.loadRegisters x)
  | _ => none

def ofOpcode? (op : Opcode) : Option Instruction :=
  match op.kind.toNat with
  | 0x0 => control? op.nnn
  | 0x1 => some (.jump op.nnn)
  | 0x2 => some (.call op.nnn)
  | 0x3 => some (.skipIfEqualByte op.x op.nn)
  | 0x4 => some (.skipIfNotEqualByte op.x op.nn)
  | 0x5 => if op.n = 0 then some (.skipIfEqual op.x op.y) else none
  | 0x6 => some (.loadByte op.x op.nn)
  | 0x7 => some (.addByte op.x op.nn)
  | 0x8 => arithmetic? op.x op.y op.n
  | 0x9 => if op.n = 0 then some (.skipIfNotEqual op.x op.y) else none
  | 0xA => some (.loadIndex op.nnn)
  | 0xB => some (.jumpOffset op.nnn)
  | 0xC => some (.random op.x op.nn)
  | 0xD => some (.draw op.x op.y op.n)
  | 0xE => keySkip? op.x op.nn
  | 0xF => transfer? op.x op.nn
  | _ => none

/-- The instruction that a word stands for, if it stands for one. -/
def ofWord? (word : UInt16) : Option Instruction :=
  ofOpcode? (Opcode.ofWord word)

def draws : Instruction → Bool
  | .clearScreen => true
  | .draw _ _ _ => true
  | _ => false

end Instruction
end Chip8
