import Chip8.Instruction.Basic

/-!
# Instruction words

The word that an instruction is written as. Registers and row counts take one nibble, bytes two and
addresses three; an instruction whose operands fit these fields is *encodable*. The two shifts leave
their third nibble free, and it is written as zero.
-/
namespace Chip8.Instruction

def nibbles (kind x y n : Nat) : UInt16 :=
  UInt16.ofNat (kind * 0x1000 + x * 0x100 + y * 0x10 + n)

def withByte (kind : Nat) (x byte : UInt8) : UInt16 :=
  UInt16.ofNat (kind * 0x1000 + x.toNat * 0x100 + byte.toNat)

def withAddress (kind : Nat) (address : UInt16) : UInt16 :=
  UInt16.ofNat (kind * 0x1000 + address.toNat)

def encode : Instruction → UInt16
  | .clearScreen => 0x00E0
  | .subReturn => 0x00EE
  | .jump target => withAddress 0x1 target
  | .call target => withAddress 0x2 target
  | .skipIfEqualByte x byte => withByte 0x3 x byte
  | .skipIfNotEqualByte x byte => withByte 0x4 x byte
  | .skipIfEqual x y => nibbles 0x5 x.toNat y.toNat 0x0
  | .loadByte x byte => withByte 0x6 x byte
  | .addByte x byte => withByte 0x7 x byte
  | .copy x y => nibbles 0x8 x.toNat y.toNat 0x0
  | .or x y => nibbles 0x8 x.toNat y.toNat 0x1
  | .and x y => nibbles 0x8 x.toNat y.toNat 0x2
  | .xor x y => nibbles 0x8 x.toNat y.toNat 0x3
  | .add x y => nibbles 0x8 x.toNat y.toNat 0x4
  | .sub x y => nibbles 0x8 x.toNat y.toNat 0x5
  | .shiftRight x => nibbles 0x8 x.toNat 0 0x6
  | .subReverse x y => nibbles 0x8 x.toNat y.toNat 0x7
  | .shiftLeft x => nibbles 0x8 x.toNat 0 0xE
  | .skipIfNotEqual x y => nibbles 0x9 x.toNat y.toNat 0x0
  | .loadIndex address => withAddress 0xA address
  | .jumpOffset base => withAddress 0xB base
  | .random x mask => withByte 0xC x mask
  | .draw x y rows => nibbles 0xD x.toNat y.toNat rows.toNat
  | .skipIfKeyPressed x => withByte 0xE x 0x9E
  | .skipIfKeyNotPressed x => withByte 0xE x 0xA1
  | .loadDelay x => withByte 0xF x 0x07
  | .waitForKey x => withByte 0xF x 0x0A
  | .setDelay x => withByte 0xF x 0x15
  | .setSound x => withByte 0xF x 0x18
  | .addIndex x => withByte 0xF x 0x1E
  | .loadGlyph x => withByte 0xF x 0x29
  | .storeDigits x => withByte 0xF x 0x33
  | .storeRegisters x => withByte 0xF x 0x55
  | .loadRegisters x => withByte 0xF x 0x65

/-- Every operand fits its field of the word. -/
def Encodable : Instruction → Prop
  | .clearScreen => True
  | .subReturn => True
  | .jump address => address.toNat < 0x1000
  | .call address => address.toNat < 0x1000
  | .loadIndex address => address.toNat < 0x1000
  | .jumpOffset address => address.toNat < 0x1000
  | .skipIfEqualByte x _ => x.toNat < 0x10
  | .skipIfNotEqualByte x _ => x.toNat < 0x10
  | .loadByte x _ => x.toNat < 0x10
  | .addByte x _ => x.toNat < 0x10
  | .random x _ => x.toNat < 0x10
  | .skipIfEqual x y => x.toNat < 0x10 ∧ y.toNat < 0x10
  | .copy x y => x.toNat < 0x10 ∧ y.toNat < 0x10
  | .or x y => x.toNat < 0x10 ∧ y.toNat < 0x10
  | .and x y => x.toNat < 0x10 ∧ y.toNat < 0x10
  | .xor x y => x.toNat < 0x10 ∧ y.toNat < 0x10
  | .add x y => x.toNat < 0x10 ∧ y.toNat < 0x10
  | .sub x y => x.toNat < 0x10 ∧ y.toNat < 0x10
  | .subReverse x y => x.toNat < 0x10 ∧ y.toNat < 0x10
  | .skipIfNotEqual x y => x.toNat < 0x10 ∧ y.toNat < 0x10
  | .draw x y rows => x.toNat < 0x10 ∧ y.toNat < 0x10 ∧ rows.toNat < 0x10
  | .shiftRight x => x.toNat < 0x10
  | .shiftLeft x => x.toNat < 0x10
  | .skipIfKeyPressed x => x.toNat < 0x10
  | .skipIfKeyNotPressed x => x.toNat < 0x10
  | .loadDelay x => x.toNat < 0x10
  | .waitForKey x => x.toNat < 0x10
  | .setDelay x => x.toNat < 0x10
  | .setSound x => x.toNat < 0x10
  | .addIndex x => x.toNat < 0x10
  | .loadGlyph x => x.toNat < 0x10
  | .storeDigits x => x.toNat < 0x10
  | .storeRegisters x => x.toNat < 0x10
  | .loadRegisters x => x.toNat < 0x10

end Chip8.Instruction
