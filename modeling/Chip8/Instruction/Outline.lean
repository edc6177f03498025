import Chip8.Instruction.Basic
import Chip8.Numeral
import Chip8.Text.Structural

/-!
# Instructions as structural text

The name of the instruction with its operands in decimal: a lone address between parentheses, other
operands as named fields between braces.
-/
namespace Chip8.Instruction

def fieldsOutline (name : String) (operands : List (String × UInt8)) : String :=
  Text.Structural.record name
    (operands.map fun operand => (operand.1, Numeral.decimal operand.2.toNat))

def addressOutline (name : String) (address : UInt16) : String :=
  Text.Structural.applied name [Numeral.decimal address.toNat]

def outline : Instruction → String
  | .clearScreen => "ClearScreen"
  | .subReturn => "Return"
  | .jump target => addressOutline "Jump" target
  | .call target => addressOutline "Call" target
  | .skipIfEqualByte x byte => fieldsOutline "SkipIfEqualByte" [("x", x), ("byte", byte)]
  | .skipIfNotEqualByte x byte => fieldsOutline "SkipIfNotEqualByte" [("x", x), ("byte", byte)]
  | .skipIfEqual x y => fieldsOutline "SkipIfEqual" [("x", x), ("y", y)]
  | .loadByte x byte => fieldsOutline "LoadByte" [("x", x), ("byte", byte)]
  | .addByte x byte => fieldsOutline "AddByte" [("x", x), ("byte", byte)]
  | .copy x y => fieldsOutline "Copy" [("x", x), ("y", y)]
  | .or x y => fieldsOutline "Or" [("x", x), ("y", y)]
  | .and x y => fieldsOutline "And" [("x", x), ("y", y)]
  | .xor x y => fieldsOutline "Xor" [("x", x), ("y", y)]
  | .add x y => fieldsOutline "Add" [("x", x), ("y", y)]
  | .sub x y => fieldsOutline "Sub" [("x", x), ("y", y)]
  | .shiftRight x => fieldsOutline "ShiftRight" [("x", x)]
  | .subReverse x y => fieldsOutline "SubReverse" [("x", x), ("y", y)]
  | .shiftLeft x => fieldsOutline "ShiftLeft" [("x", x)]
  | .skipIfNotEqual x y => fieldsOutline "SkipIfNotEqual" [("x", x), ("y", y)]
  | .loadIndex address => addressOutline "LoadIndex" address
  | .jumpOffset base => addressOutline "JumpOffset" base
  | .random x mask => fieldsOutline "Random" [("x", x), ("mask", mask)]
  | .draw x y rows => fieldsOutline "Draw" [("x", x), ("y", y), ("rows", rows)]
  | .skipIfKeyPressed x => fieldsOutline "SkipIfKeyPressed" [("x", x)]
  | .skipIfKeyNotPressed x => fieldsOutline "SkipIfKeyNotPressed" [("x", x)]
  | .loadDelay x => fieldsOutline "LoadDelay" [("x", x)]
  | .waitForKey x => fieldsOutline "WaitForKey" [("x", x)]
  | .setDelay x => fieldsOutline "SetDelay" [("x", x)]
  | .setSound x => fieldsOutline "SetSound" [("x", x)]
  | .addIndex x => fieldsOutline "AddIndex" [("x", x)]
  | .loadGlyph x => fieldsOutline "LoadGlyph" [("x", x)]
  | .storeDigits x => fieldsOutline "StoreBcd" [("x", x)]
  | .storeRegisters x => fieldsOutline "StoreRegisters" [("x", x)]
  | .loadRegisters x => fieldsOutline "LoadRegisters" [("x", x)]

end Chip8.Instruction
