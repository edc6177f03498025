import Chip8.Instruction.Basic
import Chip8.Numeral

/-!
# Assembly text

An instruction in assembly is an operation with operands, written `OP A, B, C`. Registers are
written `V` and an upper-case digit, bytes and addresses in upper-case hexadecimal of at least two
and three digits, row counts in decimal.
-/
namespace Chip8

inductive Operand where
  | register (x : UInt8)
  | byte (value : UInt8)
  | address (value : UInt16)
  | rows (count : UInt8)
  | index
  | atIndex
  | delay
  | sound
  | key
  | glyph
  | digits
  deriving DecidableEq, Repr

def Operand.text : Operand → String
  | .register x => "V" ++ Numeral.hexUpper 1 x.toNat
  | .byte value => "0x" ++ Numeral.hexUpper 2 value.toNat
  | .address value => "0x" ++ Numeral.hexUpper 3 value.toNat
  | .rows count => Numeral.decimal count.toNat
  | .index => "I"
  | .atIndex => "[I]"
  | .delay => "DT"
  | .sound => "ST"
  | .key => "K"
  | .glyph => "F"
  | .digits => "B"

structure Assembly where
  operation : String
  operands : List Operand
  deriving DecidableEq, Repr

/-- The operation, then a blank and the operands separated by a comma and a blank. -/
def Assembly.text (line : Assembly) : String :=
  match line.operands with
  | [] => line.operation
  | operands => line.operation ++ " " ++ String.intercalate ", " (operands.map Operand.text)

namespace Instruction

def assembly : Instruction → Assembly
  | .clearScreen => ⟨"CLS", []⟩
  | .subReturn => ⟨"RET", []⟩
  | .jump target => ⟨"JP", [.address target]⟩
  | .call target => ⟨"CALL", [.address target]⟩
  | .skipIfEqualByte x byte => ⟨"SE", [.register x, .byte byte]⟩
  | .skipIfNotEqualByte x byte => ⟨"SNE", [.register x, .byte byte]⟩
  | .skipIfEqual x y => ⟨"SE", [.register x, .register y]⟩
  | .loadByte x byte => ⟨"LD", [.register x, .byte byte]⟩
  | .addByte x byte => ⟨"ADD", [.register x, .byte byte]⟩
  | .copy x y => ⟨"LD", [.register x, .register y]⟩
  | .or x y => ⟨"OR", [.register x, .register y]⟩
  | .and x y => ⟨"AND", [.register x, .register y]⟩
  | .xor x y => ⟨"XOR", [.register x, .register y]⟩
  | .add x y => ⟨"ADD", [.register x, .register y]⟩
  | .sub x y => ⟨"SUB", [.register x, .register y]⟩
  | .shiftRight x => ⟨"SHR", [.register x]⟩
  | .subReverse x y => ⟨"SUBN", [.register x, .register y]⟩
  | .shiftLeft x => ⟨"SHL", [.register x]⟩
  | .skipIfNotEqual x y => ⟨"SNE", [.register x, .register y]⟩
  | .loadIndex address => ⟨"LD", [.index, .address address]⟩
  | .jumpOffset base => ⟨"JP", [.register 0, .address base]⟩
  | .random x mask => ⟨"RND", [.register x, .byte mask]⟩
  | .draw x y rows => ⟨"DRW", [.register x, .register y, .rows rows]⟩
  | .skipIfKeyPressed x => ⟨"SKP", [.register x]⟩
  | .skipIfKeyNotPressed x => ⟨"SKNP", [.register x]⟩
  | .loadDelay x => ⟨"LD", [.register x, .delay]⟩
  | .waitForKey x => ⟨"LD", [.register x, .key]⟩
  | .setDelay x => ⟨"LD", [.delay, .register x]⟩
  | .setSound x => ⟨"LD", [.sound, .register x]⟩
  | .addIndex x => ⟨"ADD", [.index, .register x]⟩
  | .loadGlyph x => ⟨"LD", [.glyph, .register x]⟩
  | .storeDigits x => ⟨"LD", [.digits, .register x]⟩
  | .storeRegisters x => ⟨"LD", [.atIndex, .register x]⟩
  | .loadRegisters x => ⟨"LD", [.register x, .atIndex]⟩

def mnemonic (instruction : Instruction) : String :=
  instruction.assembly.text

end Instruction
end Chip8
