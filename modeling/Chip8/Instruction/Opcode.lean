/-!
# Opcodes

The fields of a 16-bit instruction word. The word is cut into four nibbles; the last two also form
a byte, the last three an address:

    kind   x    y    n
    [____][____][____][____]
                [   nn     ]
          [      nnn       ]

Every word has these fields, whether it is an instruction or not.
-/
namespace Chip8

structure Opcode where
  word : UInt16
  kind : UInt8
  x : UInt8
  y : UInt8
  n : UInt8
  nn : UInt8
  nnn : UInt16
  deriving DecidableEq, Repr

namespace Opcode

def ofWord (word : UInt16) : Opcode where
  word := word
  kind := (word >>> 12).toUInt8
  x := ((word >>> 8) &&& 0xF).toUInt8
  y := ((word >>> 4) &&& 0xF).toUInt8
  n := (word &&& 0xF).toUInt8
  nn := (word &&& 0xFF).toUInt8
  nnn := word &&& 0xFFF

end Opcode
end Chip8
