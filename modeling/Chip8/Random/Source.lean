import Chip8.Random.ChaCha

/-!
# Random sources

A source of bytes is a stream that was fixed when the source was made, and how far it was drawn.
A seed of 64 bits is stretched to a key of eight words, and the bytes are the low bytes of the words
of that key's keystream.
-/
namespace Chip8

structure RandomSource where
  bytes : Nat → UInt8
  drawn : Nat

namespace RandomSource

def draw (source : RandomSource) : UInt8 × RandomSource :=
  (source.bytes source.drawn, { source with drawn := source.drawn + 1 })

/-- The bytes that are still to come. -/
def remaining (source : RandomSource) (i : Nat) : UInt8 :=
  source.bytes (source.drawn + i)

def upcoming (source : RandomSource) (n : Nat) : List UInt8 :=
  (List.range n).map source.remaining

def constant (byte : UInt8) : RandomSource where
  bytes _ := byte
  drawn := 0

/-- The given bytes over and over; without any, zeros. -/
def cyclic (bytes : List UInt8) : RandomSource where
  bytes i := bytes.getD (i % bytes.length) 0
  drawn := 0

/-- One step of the generator that stretches a seed. -/
def advanceSeed (state : UInt64) : UInt64 :=
  state * 6364136223846793005 + 11634580027462260723

def seedWord (state : UInt64) : UInt32 :=
  Random.ChaCha.rotateRight ((((state >>> 18) ^^^ state) >>> 27).toUInt32) (state >>> 59).toUInt32

/-- The key of a seed: the words of the eight states that follow it. -/
def seedKey (seed : UInt64) : Vector UInt32 8 :=
  Vector.ofFn fun i => seedWord (Nat.repeat advanceSeed (i + 1) seed)

def seeded (seed : UInt64) : RandomSource :=
  let key := seedKey seed
  { bytes := fun i => (Random.ChaCha.word key i).toUInt8, drawn := 0 }

end RandomSource
end Chip8
