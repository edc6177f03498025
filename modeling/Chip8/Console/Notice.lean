import Chip8.Diagnostics
import Chip8.Keyboard
import Chip8.Window.Key

/-!
# Notices

Everything that the program reports in its log, and the lines it reports it with.
-/
namespace Chip8

inductive ReadFailure where
  | notFound
  | notDirectory
  | isDirectory
  | denied
  | nameTooLong
  /-- The path holds the zero character, which no path can. -/
  | zeroInPath
  deriving DecidableEq, Repr

namespace ReadFailure

/-- The number of a failure. A path with a zero is never looked up, and its failure has none. -/
def code? : ReadFailure → Option Nat
  | .notFound => some 2
  | .notDirectory => some 20
  | .isDirectory => some 21
  | .denied => some 13
  | .nameTooLong => some 36
  | .zeroInPath => none

def kind : ReadFailure → String
  | .notFound => "NotFound"
  | .notDirectory => "NotADirectory"
  | .isDirectory => "IsADirectory"
  | .denied => "PermissionDenied"
  | .nameTooLong => "InvalidFilename"
  | .zeroInPath => "InvalidInput"

def message : ReadFailure → String
  | .notFound => "No such file or directory"
  | .notDirectory => "Not a directory"
  | .isDirectory => "Is a directory"
  | .denied => "Permission denied"
  | .nameTooLong => "File name too long"
  | .zeroInPath => "file name contained an unexpected NUL byte"

def outline (failure : ReadFailure) : String :=
  let named := [("kind", failure.kind), ("message", Text.Quoted.string failure.message)]
  match failure.code? with
  | some code => Text.Structural.record "Os" (("code", Numeral.decimal code) :: named)
  | none => Text.Structural.record "Error" named

end ReadFailure

inductive Notice where
  /-- A machine that is attached in this way reports an event. -/
  | machine (attachment : Attachment) (event : Event)
  | keyboard (report : Keyboard.Report)
  /-- The program ran into the halt marker. -/
  | programEnded (address : UInt16)
  /-- An instruction was executed by hand. -/
  | stepped (address : UInt16) (instruction : Instruction)
  /-- A cycle by hand found the machine waiting. -/
  | waiting
  /-- A fault stopped the machine. -/
  | stopped (fault : Fault) (machine : Machine)
  | restarting
  | reloadFailed (fault : Fault)
  | dumped (machine : Machine)
  | windowOpening (width height : Nat)
  | windowRefused
  | surfaceRefused
  | renderFailed
  | closing
  | keyInput (key : Window.Key) (pressed : Bool)
  | loading (path : String)
  | unreadable (failure : ReadFailure)
  | soundMissing
  | soundOutput
  | loadFailed (fault : Fault)
  | loopRefused
  | loopFailed

namespace Notice

def refused : String := "Refused"

def lines : Notice → List Log.Line
  | .machine attachment event => attachment.lines event
  | .keyboard report => [report.line]
  | .programEnded address => [⟨.info, "Program ended at 0x" ++ Numeral.hex 3 address.toNat⟩]
  | .stepped address instruction =>
    [⟨.info, "0x" ++ Numeral.hex 3 address.toNat ++ ": " ++ instruction.mnemonic⟩]
  | .waiting => [⟨.info, "Waiting for a key"⟩]
  | .stopped fault state =>
    [⟨.error, "Machine stopped: " ++ fault.message⟩, ⟨.debug, state.outline⟩]
  | .restarting => [⟨.info, "Restarting"⟩]
  | .reloadFailed fault => [⟨.error, "Could not reload program: " ++ fault.message⟩]
  | .dumped state => state.dumpLines
  | .windowOpening width height =>
    [⟨.info, "Creating window (" ++ Numeral.decimal width ++ "x" ++ Numeral.decimal height ++ ")"⟩]
  | .windowRefused => [⟨.error, "Error constructing window: " ++ refused⟩]
  | .surfaceRefused => [⟨.error, "Error constructing pixel buffer: " ++ refused⟩]
  | .renderFailed => [⟨.error, "Rendering failed: " ++ refused⟩]
  | .closing => [⟨.debug, "Close requested, stopping..."⟩]
  | .keyInput key pressed =>
    [⟨.trace, "Keyboard Input: " ++ key.outline ++ ", " ++ Window.pressedText pressed⟩]
  | .loading path => [⟨.info, "Loading program from: " ++ path⟩]
  | .unreadable failure =>
    [⟨.error, "Expected a path to a CHIP-8 program"⟩, ⟨.error, failure.outline⟩]
  | .soundMissing => [⟨.info, "Built without audio support, beeps will only be logged"⟩]
  | .soundOutput => [⟨.debug, "Audio output: " ++ Text.Structural.option none⟩]
  | .loadFailed fault => [⟨.error, fault.message⟩]
  | .loopRefused => [⟨.error, "Could not create event loop: " ++ refused⟩]
  | .loopFailed => [⟨.error, "Event loop failed: " ++ refused⟩]

end Notice
end Chip8
