/-!
# Log

Lines of text with a level of importance. A limit admits its own level and every more important one.
-/
namespace Chip8.Log

/-- How important a line is, the most important level first. -/
inductive Level where
  | error | warn | info | debug | trace
  deriving DecidableEq, Repr

def Level.rank : Level → Nat
  | .error => 0
  | .warn => 1
  | .info => 2
  | .debug => 3
  | .trace => 4

def Level.name : Level → String
  | .error => "ERROR"
  | .warn => "WARN"
  | .info => "INFO"
  | .debug => "DEBUG"
  | .trace => "TRACE"

structure Line where
  level : Level
  text : String
  deriving DecidableEq, Repr

/-- Whether a line is written under a limit; without a limit nothing is. -/
def Line.admitted (limit : Option Level) (line : Line) : Bool :=
  match limit with
  | none => false
  | some level => line.level.rank ≤ level.rank

def Line.render (line : Line) : String :=
  line.level.name ++ " " ++ line.text

def written (limit : Option Level) (lines : List Line) : List String :=
  (lines.filter (Line.admitted limit)).map Line.render

end Chip8.Log
