import Chip8.Numeral
import Chip8.Text.Structural

/-!
# Keypad

Which of the sixteen keys are down: bit `k` of a word is set while key `k` is down.
-/
namespace Chip8

structure Keypad where
  bits : UInt16
  deriving DecidableEq, Repr

namespace Keypad

def empty : Keypad := ⟨0⟩

/-- Only key `index` down; there is no key past `F`. -/
def key? (index : UInt8) : Option Keypad :=
  if index.toNat < 16 then some ⟨1 <<< index.toUInt16⟩ else none

def union (a b : Keypad) : Keypad := ⟨a.bits ||| b.bits⟩

/-- The keypad on which key `k` is down exactly if `states` says so. -/
def ofStates (states : Vector Bool 16) : Keypad :=
  (List.finRange 16).foldl
    (fun keys k => if states.get k then keys.union ⟨1 <<< k.val.toUInt16⟩ else keys) empty

/-- Whether a key is down; keys past `F` never are. -/
def isDown (keys : Keypad) (index : UInt8) : Bool :=
  index.toNat < 16 && keys.bits.toNat.testBit index.toNat

/-- The keys that are down, lowest first. -/
def pressed (keys : Keypad) : List Nat :=
  (List.range 16).filter fun k => keys.bits.toNat.testBit k

def lowest? (keys : Keypad) : Option UInt8 :=
  keys.pressed.head?.map Nat.toUInt8

def keyName (k : Nat) : String :=
  "KEY_" ++ Numeral.hexUpper 1 k

def outline (keys : Keypad) : String :=
  let names := keys.pressed.map keyName
  Text.Structural.applied "Keypad" [if names.isEmpty then "0x0" else String.intercalate " | " names]

end Keypad
end Chip8
