import Chip8.CommandLine
import Chip8.Console.Windowed
import Chip8.Session.Directory

/-!
# Sessions

A whole run of the program: its arguments are read, the program to run is loaded, and then things
happen around it until its event loop ends. A session answers with a transcript of what the program
reported and asked for, and with an exit code.
-/
namespace Chip8.Session

/-- What a program finds when it starts. -/
structure Setup where
  arguments : List String
  directory : Directory
  desktop : Desktop
  /-- The random source of a program without a seed. -/
  entropy : RandomSource
  /-- Whether an event loop can be made. -/
  loopOpens : Bool
  /-- Whether the event loop ends well. -/
  loopEndsWell : Bool

inductive Occurrence where
  | resumed
  /-- Some nanoseconds pass before the program may run. -/
  | wait (nanoseconds : Nat)
  /-- Some nanoseconds pass. -/
  | pass (nanoseconds : Nat)
  /-- Rendering works or fails from now on. -/
  | renderWorks (works : Bool)
  | window (event : WindowEvent)
  deriving DecidableEq, Repr

/-- A console at some point, and what was put out since the point before. -/
structure Entry where
  console : Console
  outputs : List Output

/-- What a session came to: its entries, what was put out after the last one, and the exit code. -/
structure Transcript where
  entries : List Entry
  trailing : List Output
  exitCode : UInt32

inductive Start where
  | ended (outputs : List Output) (exitCode : UInt32)
  | running (console : Console) (outputs : List Output)

def failure : UInt32 := 1

def sourceOf (options : Options) (entropy : RandomSource) : RandomSource :=
  match options.seed with
  | some seed => .seeded seed
  | none => entropy

/-- Starts a program whose arguments were read, up to its event loop. -/
def start (options : Options) (content : Except ReadFailure (List UInt8)) (entropy : RandomSource)
    (loopOpens : Bool) : Start :=
  let loading := Notice.loading options.input
  match content with
  | .error cause => .ended ([loading, .unreadable cause].map .notice) failure
  | .ok rom =>
    let (built, construction) := Console.build options.rate options.scale.toNat
      (sourceOf options entropy) rom options.stepThrough
    let (loaded, result, reported) := built.loadRom
    let notices := [loading, .soundMissing, .soundOutput] ++ construction ++ reported
    match result with
    | .error fault => .ended ((notices ++ [Notice.loadFailed fault]).map .notice) failure
    | .ok _ =>
      if loopOpens then .running loaded (notices.map .notice ++ [.call .poll])
      else .ended ((notices ++ [Notice.loopRefused]).map .notice) failure

/-- A running program: its console, the clock and what the desktop grants. -/
structure State where
  console : Console
  clock : Nat
  desktop : Desktop

/-- The reaction to an occurrence. There is none if the program runs more cycles than `patience`. -/
def State.react (state : State) (patience : Nat) : Occurrence → Option Reaction
  | .resumed => some (state.console.resumed state.desktop state.clock)
  | .wait passed => state.console.aboutToWait patience (state.clock + passed)
  | .pass _ => some state.console.ignore
  | .renderWorks _ => some state.console.ignore
  | .window event => some (state.console.windowEvent state.desktop state.clock event)

def State.after (state : State) (console : Console) : Occurrence → State
  | .wait passed => { state with console := console, clock := state.clock + passed }
  | .pass passed => { state with console := console, clock := state.clock + passed }
  | .renderWorks works =>
    { state with console := console, desktop := { state.desktop with renderWorks := works } }
  | _ => { state with console := console }

def closing (loopEndsWell : Bool) : Transcript :=
  if loopEndsWell then ⟨[], [], 0⟩ else ⟨[], [.notice .loopFailed], failure⟩

def Transcript.prepend (entry : Entry) (transcript : Transcript) : Transcript :=
  { transcript with entries := entry :: transcript.entries }

def deliver (patience : Nat) (loopEndsWell : Bool) (state : State) :
    List Occurrence → Option Transcript
  | [] => some (closing loopEndsWell)
  | occurrence :: rest => do
    let reaction ← state.react patience occurrence
    let entry : Entry := ⟨reaction.console, reaction.outputs⟩
    match reaction.verdict with
    | .goOn =>
      let later ← deliver patience loopEndsWell (state.after reaction.console occurrence) rest
      return later.prepend entry
    | .leave => return (closing loopEndsWell).prepend entry
    | .fail code => return ⟨[], reaction.outputs, code⟩

/-- A whole session. There is no transcript if the program runs more cycles than `patience` between
two occurrences. -/
def run (setup : Setup) (patience : Nat) (occurrences : List Occurrence) : Option Transcript :=
  match CommandLine.parse setup.arguments with
  | .error mistake => some ⟨[], [], mistake.exitCode⟩
  | .ok options =>
    match start options (setup.directory.read options.input) setup.entropy setup.loopOpens with
    | .ended outputs code => some ⟨[], outputs, code⟩
    | .running console outputs => do
      let rest ← deliver patience setup.loopEndsWell ⟨console, 0, setup.desktop⟩ occurrences
      return rest.prepend ⟨console, outputs⟩

end Chip8.Session
