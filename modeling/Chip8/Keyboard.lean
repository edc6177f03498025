import Chip8.Keypad
import Chip8.Log

/-!
# Keyboard

The keys of a typewriter that stand for keypad keys, and which of these are held:

    1 2 3 4        1 2 3 C
    q w e r   for  4 5 6 D
    a s d f        7 8 9 E
    z x c v        A 0 B F
-/
namespace Chip8

structure Keyboard where
  held : Vector Bool 16
  deriving DecidableEq, Repr

namespace Keyboard

inductive Report where
  | pressed (key : Nat)
  | released (key : Nat)
  | pressDiscarded (key : Nat)
  | releaseDiscarded (key : Nat)
  deriving DecidableEq, Repr

def Report.line : Report → Log.Line
  | .pressed key => ⟨.debug, "Pressing key: " ++ Numeral.hexUpper 1 key⟩
  | .released key => ⟨.debug, "Releasing key: " ++ Numeral.hexUpper 1 key⟩
  | .pressDiscarded key =>
    ⟨.warn, "Discarding out of range keypress: " ++ Numeral.decimal key⟩
  | .releaseDiscarded key =>
    ⟨.warn, "Discarding out of range key release: " ++ Numeral.decimal key⟩

def empty : Keyboard := ⟨Vector.replicate 16 false⟩

/-- Presses a key; keys past `F` are discarded. -/
def press (keyboard : Keyboard) (key : Nat) : Keyboard × Report :=
  if h : key < 16 then (⟨keyboard.held.set key true⟩, .pressed key)
  else (keyboard, .pressDiscarded key)

/-- Releases a key; keys past `F` are discarded. -/
def release (keyboard : Keyboard) (key : Nat) : Keyboard × Report :=
  if h : key < 16 then (⟨keyboard.held.set key false⟩, .released key)
  else (keyboard, .releaseDiscarded key)

def keypad (keyboard : Keyboard) : Keypad :=
  .ofStates keyboard.held

def keyOf? : String → Option Nat
  | "1" => some 0x1
  | "2" => some 0x2
  | "3" => some 0x3
  | "4" => some 0xC
  | "q" => some 0x4
  | "w" => some 0x5
  | "e" => some 0x6
  | "r" => some 0xD
  | "a" => some 0x7
  | "s" => some 0x8
  | "d" => some 0x9
  | "f" => some 0xE
  | "z" => some 0xA
  | "x" => some 0x0
  | "c" => some 0xB
  | "v" => some 0xF
  | _ => none

def outline (keyboard : Keyboard) : String :=
  Text.Structural.record "KeyboardState" [
    ("keys", Text.Structural.list (keyboard.held.toList.map Text.Structural.bool))]

end Keyboard
end Chip8
