/-!
# Registers

The sixteen byte registers `V0` to `VF`. A register is named by the low nibble of its number. The
last one, `VF`, doubles as the flag.
-/
namespace Chip8

structure Registers where
  cells : Vector UInt8 16
  deriving DecidableEq, Repr

namespace Registers

def zero : Registers := ⟨Vector.replicate 16 0⟩

def place (x : UInt8) : Fin 16 :=
  ⟨x.toNat % 16, Nat.mod_lt _ (by decide)⟩

def get (registers : Registers) (x : UInt8) : UInt8 :=
  registers.cells.get (place x)

def set (registers : Registers) (x value : UInt8) : Registers :=
  ⟨registers.cells.set (place x) value⟩

/-- Makes the flag register one or zero. -/
def setFlag (registers : Registers) (flag : Bool) : Registers :=
  registers.set 0xF (if flag then 1 else 0)

def toList (registers : Registers) : List UInt8 :=
  registers.cells.toList

/-- The values of `V0` to `VX`. -/
def upTo (registers : Registers) (x : UInt8) : List UInt8 :=
  registers.toList.take (place x + 1)

def fill (registers : Registers) (values : List UInt8) : Registers :=
  ⟨Vector.ofFn fun i => values.getD i (registers.cells.get i)⟩

end Registers
end Chip8
