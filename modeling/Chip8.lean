import Chip8.Instruction.Encoding
import Chip8.Instruction.Outline
import Chip8.Main
import Chip8.Proofs.Bare.Requests
import Chip8.Proofs.Calls
import Chip8.Proofs.Faults
import Chip8.Proofs.Mirror
import Chip8.Proofs.KeyWait
import Chip8.Proofs.Timers
import Chip8.Proofs.Console.Cycles
import Chip8.Proofs.Timing
import Chip8.Proofs.Console.Pace
import Chip8.Proofs.Alike
import Chip8.Proofs.Console.Twins
import Chip8.Proofs.Console.Restart
import Chip8.Proofs.Console.Record
import Chip8.Proofs.Console.Halting
import Chip8.Proofs.Console.Drift
import Chip8.Proofs.Console.Modes
import Chip8.Proofs.Repaint
import Chip8.Proofs.Devices
import Chip8.Proofs.Beeps
import Chip8.Proofs.HiddenTimers
import Chip8.Proofs.Rolls
import Chip8.Proofs.Sprites
import Chip8.Proofs.Drawing
import Chip8.Proofs.Arithmetic
import Chip8.Proofs.Footprint
import Chip8.Proofs.Counter
import Chip8.Proofs.RegisterBlocks
import Chip8.Proofs.Console.Typing
import Chip8.Proofs.Console.StraightLine
import Chip8.Proofs.Loading
import Chip8.Proofs.Painting
import Chip8.Proofs.Stamps
import Chip8.Proofs.LitCount
import Chip8.Proofs.OddLine
import Chip8.Proofs.Dumps
import Chip8.Proofs.Progress
import Chip8.Proofs.LastingFaults
import Chip8.Proofs.Encoding
import Chip8.Proofs.Mnemonics
import Chip8.Proofs.Accesses
import Chip8.Proofs.StackRequests
import Chip8.Proofs.Console.Runs
