import Chip8.Machine.Basic

/-!
# Diagnostics

Where the messages and dumps of a machine go. A dump has three parts in a fixed order: registers,
memory and screen. A sink takes the parts it supports, and a dump breaks off at the first part that
its sink does not support. The log takes all of them, as lines.
-/
namespace Chip8

inductive DumpPart where
  | registers
  | memory
  | screen
  deriving DecidableEq, Repr

namespace DumpPart

/-- The parts in the order in which they are dumped. -/
def all : List DumpPart := [.registers, .memory, .screen]

def name : DumpPart → String
  | .registers => "register"
  | .memory => "memory"
  | .screen => "framebuffer"

def unsupported (part : DumpPart) : String :=
  "not implemented: " ++ part.name ++ " dumps are not supported by this diagnostics sink"

end DumpPart

/-- A receiver of messages and dumps. -/
inductive Sink where
  /-- Nobody listens. -/
  | absent
  /-- Keeps messages and the given parts of dumps. -/
  | recorder (parts : List DumpPart)
  /-- Writes messages and dumps to the log. -/
  | log
  deriving DecidableEq, Repr

namespace Sink

def supports : Sink → DumpPart → Bool
  | .absent, _ => true
  | .recorder parts, part => parts.contains part
  | .log, _ => true

def delivered (sink : Sink) : List DumpPart :=
  match sink with
  | .absent => []
  | _ => DumpPart.all.takeWhile sink.supports

/-- The part at which a dump breaks off. -/
def missing? (sink : Sink) : Option DumpPart :=
  DumpPart.all.find? fun part => !sink.supports part

end Sink

namespace Machine

def registersLine (registers : Registers) : String :=
  String.intercalate " " (registers.toList.zipIdx.map fun (value, x) =>
    "V" ++ Numeral.hexUpper 1 x ++ "=" ++ Numeral.hex 2 value.toNat)

/-- The bytes of one of the 128 memory rows of 32 bytes. -/
def memoryRow (memory : Memory) (row : Fin 128) : List UInt8 :=
  List.ofFn fun i : Fin 32 => memory.bytes.get ⟨row * 32 + i, by
    show row.val * 32 + i.val < 4096
    omega⟩

def memoryLine (memory : Memory) (row : Fin 128) : String :=
  Numeral.hex 3 (row * 32) ++ ": " ++
    String.intercalate " " ((memoryRow memory row).map fun byte => Numeral.hex 2 byte.toNat)

/-- The memory rows that hold anything but zeros. -/
def memoryLines (memory : Memory) : List String :=
  ((List.finRange 128).filter fun row => !(memoryRow memory row).all (· == 0)).map
    (memoryLine memory)

def screenLines (screen : Screen) : List String :=
  (List.range Screen.height).map fun y => Numeral.column 2 y ++ " " ++ screen.rowText y

def dumpText (machine : Machine) : DumpPart → List String
  | .registers => [registersLine machine.registers]
  | .memory => memoryLines machine.memory
  | .screen => screenLines machine.screen

def dumpLines (machine : Machine) : List Log.Line :=
  (DumpPart.all.flatMap machine.dumpText).map fun text => ⟨.debug, text⟩

end Machine

/-- What a machine is attached to: whether a display and a beeper are there, and the sink. -/
structure Attachment where
  display : Bool
  beeper : Bool
  sink : Sink
  deriving DecidableEq, Repr

namespace Attachment

def displayLine : Log.Line := ⟨.trace, "Initializing display"⟩

/-- The line in place of a beep. -/
def silentBeep : Log.Line := ⟨.debug, "Beep (no audio output)"⟩

/-- The lines that an event leaves in the log: the machine's own, then those of what it is attached
to. -/
def lines (attachment : Attachment) (event : Event) : List Log.Line :=
  event.line?.toList ++
    (if attachment.display && event.isDisplayReset then [displayLine] else []) ++
    (if !attachment.beeper && event.isBeep then [silentBeep] else []) ++
    (if attachment.sink = .log then (event.message?.map (Log.Line.mk .info)).toList else [])

end Attachment
end Chip8
