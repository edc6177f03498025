/-!
# ChaCha keystream

The stream of 32-bit words that the ChaCha block function with twelve rounds produces under a key,
with a block counter of 64 bits that starts at zero and a zero nonce.
-/
namespace Chip8.Random.ChaCha

abbrev Block := Vector UInt32 16

def rotateLeft (word n : UInt32) : UInt32 :=
  word <<< n ||| word >>> (32 - n)

def rotateRight (word n : UInt32) : UInt32 :=
  rotateLeft word ((32 - n) % 32)

/-- Adds the second word to the first and turns their exclusive or with the third by `n`. -/
def mix (block : Block) (a b d : Fin 16) (n : UInt32) : Block :=
  let sum := block.get a + block.get b
  (block.set a sum).set d (rotateLeft (block.get d ^^^ sum) n)

def quarterRound (block : Block) (a b c d : Fin 16) : Block :=
  let block := mix block a b d 16
  let block := mix block c d b 12
  let block := mix block a b d 8
  mix block c d b 7

/-- Quarter rounds on the columns, then on the diagonals. -/
def doubleRound (block : Block) : Block :=
  let block := quarterRound block 0 4 8 12
  let block := quarterRound block 1 5 9 13
  let block := quarterRound block 2 6 10 14
  let block := quarterRound block 3 7 11 15
  let block := quarterRound block 0 5 10 15
  let block := quarterRound block 1 6 11 12
  let block := quarterRound block 2 7 8 13
  quarterRound block 3 4 9 14

/-- Twelve rounds are six double rounds. -/
def doubleRounds : Nat := 6

def constants : Vector UInt32 4 :=
  #v[0x61707865, 0x3320646e, 0x79622d32, 0x6b206574]

/-- The last four words of a block: the counter, low word first, and the nonce. -/
def position (counter : UInt64) : Vector UInt32 4 :=
  #v[counter.toUInt32, (counter >>> 32).toUInt32, 0, 0]

def start (key : Vector UInt32 8) (counter : UInt64) : Block :=
  constants ++ key ++ position counter

/-- The block of keystream with a number: the rounds' result added word by word to the start. -/
def block (key : Vector UInt32 8) (counter : UInt64) : Block :=
  let first := start key counter
  (Nat.repeat doubleRound doubleRounds first).zipWith (· + ·) first

def word (key : Vector UInt32 8) (i : Nat) : UInt32 :=
  (block key (i / 16).toUInt64).get ⟨i % 16, Nat.mod_lt _ (by decide)⟩

end Chip8.Random.ChaCha
