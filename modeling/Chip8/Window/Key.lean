import Chip8.Text.Quoted
import Chip8.Text.Structural

/-!
# Keys of a window

What a window reports about its keyboard: a key with a name, a key that types text, or a dead key
that waits for another one.
-/
namespace Chip8.Window

/-- Keys that type nothing and are known by name. -/
inductive NamedKey where
  | escape | backspace | f1 | f2 | space | enter | delete | shift
  deriving DecidableEq, Repr

namespace NamedKey

def all : List NamedKey :=
  [.escape, .backspace, .f1, .f2, .space, .enter, .delete, .shift]

def name : NamedKey → String
  | .escape => "Escape"
  | .backspace => "Backspace"
  | .f1 => "F1"
  | .f2 => "F2"
  | .space => "Space"
  | .enter => "Enter"
  | .delete => "Delete"
  | .shift => "Shift"

def ofName? (name : String) : Option NamedKey :=
  all.find? fun key => key.name == name

end NamedKey

inductive Key where
  | named (key : NamedKey)
  | character (text : String)
  | dead (mark : Option Char)
  deriving DecidableEq, Repr

def Key.outline : Key → String
  | .named key => Text.Structural.applied "Named" [key.name]
  | .character text => Text.Structural.applied "Character" [Text.Quoted.string text]
  | .dead mark =>
    Text.Structural.applied "Dead" [Text.Structural.option (mark.map Text.Quoted.char)]

/-- A key that went down or up, or that repeats because it is held. -/
structure KeyInput where
  key : Key
  pressed : Bool
  repeated : Bool
  deriving DecidableEq, Repr

def pressedText (pressed : Bool) : String :=
  if pressed then "Pressed" else "Released"

end Chip8.Window
