import Chip8.Session.Run

/-!
# The program at a terminal

Runs a program in a terminal. The screen is printed as text whenever the display asks for it, log
lines go to the error stream, and an empty line typed in stands for the space bar. The rules of what
happens are those of sessions; here they only meet files, the clock and the terminal.
-/
namespace Chip8.Terminal

/-- The least important lines that are printed. -/
def limit : Option Log.Level := some .error

/-- The desktop of a terminal grants everything. -/
def desktop : Desktop := ⟨1, true, true, true⟩

/-- More cycles than a console is ever behind its clock. -/
def patience : Nat := Nat.pow 2 62

def usage : String :=
  "Runs a CHIP-8 program\n\n" ++
  "Usage: chip8 [OPTIONS] <INPUT_FILE>\n\n" ++
  "  --rate <RATE>    Instructions executed per second [default: 500]\n" ++
  "  --scale <SCALE>  Real pixels per CHIP-8 pixel [default: 20]\n" ++
  "  --seed <SEED>    Seed for CXNN, for reproducible runs\n" ++
  "  --step           Execute one instruction per press of the space bar\n" ++
  "  -h, --help       Print help\n"

def advice : UsageError → String
  | .helpRequested => usage
  | .unknownArgument => "error: unexpected argument\n\n" ++ usage
  | .missingValue => "error: an option needs a value\n\n" ++ usage
  | .badValue => "error: a value is not a number in range\n\n" ++ usage
  | .repeatedOption => "error: an option was given twice\n\n" ++ usage
  | .surplusValue => "error: an option takes no value\n\n" ++ usage
  | .missingPath => "error: the path of a program is missing\n\n" ++ usage

def readRom (path : String) : IO (Except ReadFailure (List UInt8)) := do
  if let some failure := Session.pathFailure? path then return .error failure
  try
    let bytes ← IO.FS.readBinFile path
    return .ok bytes.toList
  catch
    | .noFileOrDirectory .. => return .error .notFound
    | .permissionDenied .. => return .error .denied
    | .invalidArgument .. => return .error .nameTooLong
    | .inappropriateType _ 20 _ => return .error .notDirectory
    | _ => return .error .isDirectory

def report (outputs : List Output) : IO Unit := do
  for line in Log.written limit (outputs.flatMap Output.lines) do
    IO.eprintln line

def asksRedraw (outputs : List Output) : Bool :=
  (outputs.filterMap Output.call?).contains .requestRedraw

/-- Lets something happen, and redraws when that is asked for. -/
def occur (state : Session.State) (occurrence : Session.Occurrence) :
    IO (Session.State × Verdict) := do
  match state.react patience occurrence with
  | none => return (state, .fail Session.failure)
  | some reaction =>
    report reaction.outputs
    let next := state.after reaction.console occurrence
    if asksRedraw reaction.outputs then
      let redrawn := next.console.redraw next.desktop
      report redrawn.outputs
      IO.println next.console.machine.screen.outline
      return ({ next with console := redrawn.console }, redrawn.verdict)
    return (next, reaction.verdict)

def spaceBar : Session.Occurrence :=
  .window (.keyInput ⟨.named .space, true, false⟩)

/-- Lets the clock run until the console halts; by hand, each line typed in is the space bar. -/
partial def loop (started : Nat) (state : Session.State) : IO UInt32 := do
  let now := (← IO.monoNanosNow) - started
  let (next, verdict) ← occur state (.wait (now - state.clock))
  match verdict with
  | .fail code => return code
  | .leave => return 0
  | .goOn =>
    if next.console.halted then return 0
    if next.console.stepThrough then
      let line ← (← IO.getStdin).getLine
      if line.isEmpty then return 0
      let (stepped, _) ← occur next spaceBar
      loop started stepped
    else
      IO.sleep 1
      loop started next

def begin (options : Options) : IO UInt32 := do
  let content ← readRom options.input
  let seed ← IO.rand 0 (UInt64.size - 1)
  match Session.start options content (.seeded seed.toUInt64) true with
  | .ended outputs code =>
    report outputs
    return code
  | .running console outputs =>
    report outputs
    let (opened, _) ← occur ⟨console, 0, desktop⟩ .resumed
    loop (← IO.monoNanosNow) opened

end Chip8.Terminal

def main (arguments : List String) : IO UInt32 := do
  match Chip8.CommandLine.parse arguments with
  | .ok options => Chip8.Terminal.begin options
  | .error mistake =>
    if mistake = .helpRequested then IO.print (Chip8.Terminal.advice mistake)
    else IO.eprint (Chip8.Terminal.advice mistake)
    return mistake.exitCode
