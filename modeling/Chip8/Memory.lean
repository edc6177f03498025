import Chip8.Fault

/-!
# Memory

The 4096 bytes of memory. The font lies at address 0, programs are loaded at `0x200` and followed
by a halt marker that is no instruction, so that running off the end of a program is noticed at a
known address. An access outside of memory is a fault and never wraps around.
-/
namespace Chip8

abbrev Memory.size : Nat := 4096

structure Memory where
  bytes : Vector UInt8 Memory.size
  deriving DecidableEq, Repr

namespace Memory

/-- Where programs are loaded and where execution starts. -/
abbrev programStart : Nat := 0x200

/-- The two bytes behind every program. -/
def haltMarker : List UInt8 := [0x0E, 0xFD]

def haltWord : UInt16 := 0x0EFD

/-- The largest program that leaves room for the halt marker. -/
abbrev maxProgram : Nat := size - programStart - 2

abbrev glyphSize : Nat := 5

/-- The glyphs of the digits `0` to `F`, one row of five bytes for each. -/
def font : List UInt8 := [
  0xF0, 0x90, 0x90, 0x90, 0xF0,
  0x20, 0x60, 0x20, 0x20, 0x70,
  0xF0, 0x10, 0xF0, 0x80, 0xF0,
  0xF0, 0x10, 0xF0, 0x10, 0xF0,
  0x90, 0x90, 0xF0, 0x10, 0x10,
  0xF0, 0x80, 0xF0, 0x10, 0xF0,
  0xF0, 0x80, 0xF0, 0x90, 0xF0,
  0xF0, 0x10, 0x20, 0x40, 0x40,
  0xF0, 0x90, 0xF0, 0x90, 0xF0,
  0xF0, 0x90, 0xF0, 0x10, 0xF0,
  0xF0, 0x90, 0xF0, 0x90, 0x90,
  0xE0, 0x90, 0xE0, 0x90, 0xE0,
  0xF0, 0x80, 0x80, 0x80, 0xF0,
  0xE0, 0x90, 0x90, 0x90, 0xE0,
  0xF0, 0x80, 0xF0, 0x80, 0xF0,
  0xF0, 0x80, 0xF0, 0x80, 0x80]

def zero : Memory := ⟨Vector.replicate size 0⟩

/-- Writes bytes from `start` on; what would lie past the end is left out. -/
def store (memory : Memory) (start : Nat) : List UInt8 → Memory
  | [] => memory
  | byte :: rest => store ⟨memory.bytes.setIfInBounds start byte⟩ (start + 1) rest

def initial : Memory := zero.store 0 font

/-- The fault of an access to `length` bytes from `start` on: it names the last of them. -/
def rangeFault (start length : Nat) : Fault :=
  .addressOutOfBounds (max (start + length - 1) start)

def read (memory : Memory) (address : Nat) : Except Fault UInt8 :=
  if h : address < size then .ok (memory.bytes.get ⟨address, h⟩)
  else .error (.addressOutOfBounds address)

/-- The word whose high byte is at an address and whose low byte follows. -/
def readWord (memory : Memory) (address : Nat) : Except Fault UInt16 := do
  let high ← memory.read address
  let low ← memory.read (address + 1)
  return high.toUInt16 <<< 8 ||| low.toUInt16

def readRange (memory : Memory) (start length : Nat) : Except Fault (List UInt8) :=
  if h : start + length ≤ size then
    .ok (List.ofFn fun i : Fin length => memory.bytes.get ⟨start + i, by omega⟩)
  else .error (rangeFault start length)

def writeRange (memory : Memory) (start : Nat) (bytes : List UInt8) : Except Fault Memory :=
  if start + bytes.length ≤ size then .ok (memory.store start bytes)
  else .error (rangeFault start bytes.length)

def load (memory : Memory) (program : List UInt8) : Except Fault Memory :=
  if program.length ≤ maxProgram then .ok (memory.store programStart (program ++ haltMarker))
  else .error (.programTooLarge program.length maxProgram)

/-! ## Ranges of 64-bit addresses -/

/-- Whether the address behind a range is still a 64-bit number. -/
def spans (start : UInt64) (length : Nat) : Bool :=
  start.toNat + length < UInt64.size

/-- `readRange` for 64-bit numbers; a range whose end is no 64-bit number has no answer. -/
def slice? (memory : Memory) (start length : UInt64) : Option (Except Fault (List UInt8)) :=
  if spans start length.toNat then some (memory.readRange start.toNat length.toNat) else none

/-- `writeRange` for a 64-bit address; a range whose end is no 64-bit number has no answer. -/
def overwrite? (memory : Memory) (start : UInt64) (bytes : List UInt8) :
    Option (Except Fault Memory) :=
  if spans start bytes.length then some (memory.writeRange start.toNat bytes) else none

/-! ## Accesses one after another -/

inductive Access where
  | load (program : List UInt8)
  | read (address : UInt64)
  | readWord (address : UInt64)
  | slice (start length : UInt64)
  | overwrite (start : UInt64) (bytes : List UInt8)
  /-- Starts over with memory at power-on. -/
  | renew
  deriving DecidableEq, Repr

inductive Access.Value where
  | done
  | byte (byte : UInt8)
  | word (word : UInt16)
  | bytes (bytes : List UInt8)
  deriving DecidableEq, Repr

abbrev Access.Reply := Except Fault Access.Value

/-- The reply to an access that changes memory; one that fails leaves it as it was. -/
def changed (memory : Memory) : Except Fault Memory → Access.Reply × Memory
  | .ok after => (.ok .done, after)
  | .error fault => (.error fault, memory)

/-- The reply to an access and the memory that it leaves, if it has an answer. -/
def serve? (memory : Memory) : Access → Option (Access.Reply × Memory)
  | .load program => some (memory.changed (memory.load program))
  | .read address => some ((memory.read address.toNat).map .byte, memory)
  | .readWord address => some ((memory.readWord address.toNat).map .word, memory)
  | .slice start length =>
    (memory.slice? start length).map fun result => (result.map .bytes, memory)
  | .overwrite start bytes => (memory.overwrite? start bytes).map memory.changed
  | .renew => some (.ok .done, initial)

/-- The replies to accesses one after another, each with the memory that it leaves. An access
without an answer is the end of everything: then there are no replies at all, to those before it
either. -/
def replies? (memory : Memory) : List Access → Option (List (Access.Reply × Memory))
  | [] => some []
  | access :: rest => do
    let served ← memory.serve? access
    let later ← served.2.replies? rest
    return served :: later

end Memory
end Chip8
