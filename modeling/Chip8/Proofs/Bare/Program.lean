import Chip8.Proofs.Bare.Basic

/-!
# Programs of the bare machine

The operations of a machine as computations on the bare machine, one change after another.
-/
namespace Chip8.Bare

/-! ## Parts of the machine -/

def setMemory (memory : Vector UInt8 Memory.size) : Work Unit :=
  change fun bare => { bare with memory := memory }

def setRegisters (registers : Vector UInt8 16) : Work Unit :=
  change fun bare => { bare with registers := registers }

def setIndex (index : UInt16) : Work Unit :=
  change fun bare => { bare with index := index }

def setCounter (counter : UInt16) : Work Unit :=
  change fun bare => { bare with counter := counter }

def setSlots (slots : Vector UInt16 16) : Work Unit :=
  change fun bare => { bare with slots := slots }

def setPointer (pointer : UInt8) : Work Unit :=
  change fun bare => { bare with pointer := pointer }

def setDelay (delay : UInt8) : Work Unit :=
  change fun bare => { bare with delay := delay }

def setSound (sound : UInt8) : Work Unit :=
  change fun bare => { bare with sound := sound }

def setDivider (divider : UInt32) : Work Unit :=
  change fun bare => { bare with divider := divider }

def setCells (cells : Cells) : Work Unit :=
  change fun bare => { bare with cells := cells }

def setKeys (keys : UInt16) : Work Unit :=
  change fun bare => { bare with keys := keys }

def setKeyWait (keyWait : Option UInt8) : Work Unit :=
  change fun bare => { bare with keyWait := keyWait }

def moveTo (target : Nat) : Work Unit := do
  setCounter (← liftM (word? target))

def nextByte : Work UInt8 := do
  let (byte, source) := (← inspect random).draw
  change fun bare => { bare with random := source }
  return byte

/-! ## Registers, memory and stack -/

def readRegister (x : UInt8) : Work UInt8 := do
  let registers ← inspect registers
  liftM registers[x.toNat]?

def writeRegister (x value : UInt8) : Work Unit := do
  setRegisters (← liftM (replace? (← inspect registers) x.toNat value))

def flag : UInt8 := 0xF

def readByte (address : Nat) : Work UInt8 := do
  let memory ← inspect memory
  match memory[address]? with
  | some byte => return byte
  | none => throw (.addressOutOfBounds address)

def readWord (address : Nat) : Work UInt16 := do
  let high ← readByte address
  let low ← readByte (← liftM (size? (address + 1)))
  return high.toUInt16 <<< 8 ||| low.toUInt16

/-- The address behind a range of memory; a range that memory does not hold is a fault. -/
def rangeEnd (start length : Nat) : Work Nat := do
  let stop ← liftM (size? (start + length))
  if stop ≤ Memory.size then return stop
  else throw (.addressOutOfBounds (max (stop - 1) start))

def readRange (start length : Nat) : Work (List UInt8) := do
  let stop ← rangeEnd start length
  let memory ← inspect memory
  return (memory.toList.take stop).drop start

def firstRegisters (count : Nat) : Work (List UInt8) := do
  let registers ← inspect registers
  if count ≤ registers.toList.length then return registers.toList.take count
  else liftM (none : Option (List UInt8))

def writeRange (start stop : Nat) (bytes : List UInt8) : Work Unit := do
  setMemory (← liftM (copy? (← inspect memory) start stop bytes))

/-- Copies bytes to where the index register points, once memory is known to hold the range. -/
def storeBlock (length : Nat) (source : Work (List UInt8)) : Work Unit := do
  let start := (← inspect index).toNat
  let stop ← rangeEnd start length
  writeRange start stop (← source)

def push (value caller : UInt16) : Work Unit := do
  let pointer ← inspect pointer
  match replace? (← inspect slots) pointer.toNat value with
  | some slots =>
    setSlots slots
    setPointer (← liftM (byte? (pointer.toNat + 1)))
  | none => throw (.stackOverflow caller)

def pop (caller : UInt16) : Work UInt16 := do
  let pointer ← inspect pointer
  if pointer = 0 then throw (.stackUnderflow caller)
  let top ← liftM (difference? pointer.toNat 1)
  setPointer top.toUInt8
  let slots ← inspect slots
  liftM slots[top]?

def clearStack : Work Unit :=
  change fun bare => { bare with slots := Vector.replicate 16 0, pointer := 0 }

/-! ## Drawing -/

/-- The rows of the sprite that the index register points at; no rows are read from anywhere. -/
def readSprite (rows : UInt8) : Work (List UInt8) :=
  if rows = 0 then return []
  else do readRange (← inspect index).toNat rows.toNat

/-- Toggles the cell that a bit of a sprite row falls on, if the bit is set, and remembers whether a
lit pixel went dark. -/
def plotBit (x y r : Nat) (row : UInt8) (state : Cells × Bool) (bit : Nat) :
    Option (Cells × Bool) :=
  if row &&& (0x80 >>> bit.toUInt8) = 0 then some state
  else do
    let column ← size? (x + bit)
    let line ← size? (y + r)
    let place := line % Screen.height * Screen.width + column % Screen.width
    let cell ← state.1[place]?
    let cells ← replace? state.1 place (cell ^^^ 1)
    return (cells, state.2 || cell == 1)

def plotRow (x y : Nat) (state : Cells × Bool) (row : UInt8 × Nat) :
    Option (Cells × Bool) :=
  (List.range 8).foldlM (plotBit x y row.2 row.1) state

def plotSprite (x y : Nat) (sprite : List UInt8) (cells : Cells) :
    Option (Cells × Bool) :=
  sprite.zipIdx.foldlM (plotRow (x % Screen.width) (y % Screen.height)) (cells, false)

def drawSprite (x y : Nat) (sprite : List UInt8) : Work Bool := do
  let (cells, collided) ← liftM (plotSprite x y sprite (← inspect cells))
  setCells cells
  return collided

def clearCells : Work Unit := do
  tell .screenCleared
  setCells (Vector.replicate (Screen.height * Screen.width) 0)

def screenOf (cells : Cells) : Screen := ⟨cells.map (· == 1)⟩

/-! ## Keys -/

/-- Whether a key is down; keys past the last one never are. -/
def isDown (key : UInt8) : Work Bool := do
  let keys ← inspect keys
  if key.toNat < 16 then
    let mask ← liftM (mask? key.toNat)
    return keys &&& mask == mask
  else return false

def pressed? (states : Vector Bool 16) : Option UInt16 :=
  (List.finRange 16).foldlM
    (fun keys k => if states.get k then (mask? k).map (keys ||| ·) else some keys) 0

/-! ## Instructions -/

def combine (x y : UInt8) (value : UInt8 → UInt8 → UInt8) : Work Flow := do
  let a ← readRegister x
  let b ← readRegister y
  writeRegister x (value a b)
  return .next

/-- Gives a register a value made of two, and then the flag another one. -/
def combineFlagged (x y : UInt8) (value flagged : UInt8 → UInt8 → UInt8) : Work Flow := do
  let a ← readRegister x
  let b ← readRegister y
  writeRegister x (value a b)
  writeRegister flag (flagged a b)
  return .next

def compare (x y : UInt8) (condition : UInt8 → UInt8 → Bool) : Work Flow := do
  let a ← readRegister x
  let b ← readRegister y
  return .skipIf (condition a b)

def test (x : UInt8) (condition : UInt8 → Bool) : Work Flow := do
  return .skipIf (condition (← readRegister x))

def bit (condition : Bool) : UInt8 := if condition then 1 else 0

def execute (instruction : Instruction) : Work Flow := do
  let address ← inspect counter
  match instruction with
  | .clearScreen =>
    clearCells
    return .next
  | .subReturn =>
    let caller ← pop address
    return .jump (← liftM (word? (caller.toNat + 2)))
  | .jump target => return .jump target
  | .call target =>
    push address address
    return .jump target
  | .skipIfEqualByte x byte => test x (· == byte)
  | .skipIfNotEqualByte x byte => test x (· != byte)
  | .skipIfEqual x y => compare x y (· == ·)
  | .loadByte x byte =>
    writeRegister x byte
    return .next
  | .addByte x byte =>
    writeRegister x ((← readRegister x) + byte)
    return .next
  | .copy x y =>
    writeRegister x (← readRegister y)
    return .next
  | .or x y => combine x y (· ||| ·)
  | .and x y => combine x y (· &&& ·)
  | .xor x y => combine x y (· ^^^ ·)
  | .add x y => combineFlagged x y (· + ·) fun a b => bit (256 ≤ a.toNat + b.toNat)
  | .sub x y => combineFlagged x y (· - ·) fun a b => bit (!decide (a < b))
  | .shiftRight x => combineFlagged x x (fun a _ => a >>> 1) fun a _ => a &&& 1
  | .subReverse x y => combineFlagged x y (fun a b => b - a) fun a b => bit (!decide (b < a))
  | .shiftLeft x => combineFlagged x x (fun a _ => a <<< 1) fun a _ => a >>> 7
  | .skipIfNotEqual x y => compare x y (· != ·)
  | .loadIndex target =>
    setIndex target
    return .next
  | .jumpOffset base =>
    let first ← readRegister 0
    return .jump (← liftM (word? (first.toNat + base.toNat)))
  | .random x mask =>
    writeRegister x ((← nextByte) &&& mask)
    return .next
  | .draw x y rows =>
    let sprite ← readSprite rows
    let a ← readRegister x
    let b ← readRegister y
    let collided ← drawSprite a.toNat b.toNat sprite
    writeRegister flag (bit collided)
    return .next
  | .skipIfKeyPressed x =>
    let down ← isDown (← readRegister x)
    return .skipIf down
  | .skipIfKeyNotPressed x =>
    let down ← isDown (← readRegister x)
    return .skipIf (!down)
  | .loadDelay x =>
    writeRegister x (← inspect delay)
    return .next
  | .waitForKey x =>
    tell (.keyAwaited x)
    setKeyWait (some x)
    return .next
  | .setDelay x =>
    setDelay (← readRegister x)
    return .next
  | .setSound x =>
    setSound (← readRegister x)
    return .next
  | .addIndex x =>
    let value ← readRegister x
    setIndex ((← inspect index) + value.toUInt16)
    return .next
  | .loadGlyph x =>
    let digit ← readRegister x
    if 0xF < digit then tell (.glyphMissing x digit)
    let target ← liftM (word? (digit.toNat * Memory.glyphSize))
    setIndex target
    return .next
  | .storeDigits x =>
    let value ← readRegister x
    let digits := [value / 100, value / 10 % 10, value % 10]
    storeBlock digits.length (pure digits)
    return .next
  | .storeRegisters x =>
    let count ← liftM (size? (x.toNat + 1))
    storeBlock count (firstRegisters count)
    return .next
  | .loadRegisters x =>
    let count ← liftM (size? (x.toNat + 1))
    let bytes ← readRange (← inspect index).toNat count
    setRegisters (← liftM (copy? (← inspect registers) 0 count bytes))
    return .next

/-! ## Operations -/

def follow (address : UInt16) : Flow → Work Unit
  | .next => moveTo (address.toNat + 2)
  | .skip => moveTo (address.toNat + 4)
  | .jump target => moveTo target.toNat

def perform (address word : UInt16) (instruction : Instruction) : Work Cycle := do
  tell (.fetched address word instruction)
  follow address (← execute instruction)
  if instruction.draws then tell (.screenShown (screenOf (← inspect cells)))
  return .executed instruction

def runInstruction : Work Cycle := do
  let address ← inspect counter
  let word ← readWord address.toNat
  match Instruction.ofWord? word with
  | none =>
    tell (.invalidWord word address)
    moveTo (address.toNat + 2)
    return .decodeFault word
  | some instruction => perform address word instruction

def cyclesPerTick (rate : UInt32) : UInt32 :=
  let cycles := rate / 60
  if cycles < 1 then 1 else cycles

def countDelay : Work Unit := do
  let delay ← inspect delay
  if 0 < delay then
    let less ← liftM (difference? delay.toNat 1)
    setDelay less.toUInt8

def countSound : Work Unit := do
  let sound ← inspect sound
  if 0 < sound then
    if sound = 1 then tell .soundExpired
    let less ← liftM (difference? sound.toNat 1)
    setSound less.toUInt8

def tick : Work Unit := do
  countDelay
  countSound

/-- Counts a cycle; when enough have passed the timers count and the counting starts over. -/
def countCycle : Work Unit := do
  let divider ← inspect divider
  let left ← liftM (difference? divider.toNat 1)
  setDivider left.toUInt32
  if left = 0 then
    setDivider (cyclesPerTick (← inspect rate))
    tick

def attempt : Work Cycle := do
  match ← inspect keyWait with
  | some _ => return .awaitingKey
  | none => runInstruction

def step : Work Cycle := do
  let cycle ← attempt
  countCycle
  return cycle

def replaceKeys (pressed : Keypad) : Work Unit := do
  if pressed.bits ≠ (← inspect keys) then tell (.keysChanged pressed)
  setKeys pressed.bits

/-- Gives the lowest key that is down to the register that waits for one. -/
def deliverKey (pressed : Keypad) : Work Unit := do
  match ← inspect keyWait, pressed.lowest? with
  | some x, some key =>
    tell (.keyDelivered key x)
    writeRegister x key
    setKeyWait none
  | _, _ => return ()

def applyKeys (pressed : Keypad) : Work Unit := do
  replaceKeys pressed
  deliverKey pressed

def poll (states : Vector Bool 16) : Work Unit := do
  let pressed ← liftM (pressed? states)
  applyKeys ⟨pressed⟩

def load (program : List UInt8) : Work Unit := do
  if Memory.maxProgram < program.length then
    throw (.programTooLarge program.length Memory.maxProgram)
  let stop ← liftM (size? (Memory.programStart + program.length))
  writeRange Memory.programStart stop program
  let behind ← liftM (size? (stop + Memory.haltMarker.length))
  writeRange stop behind Memory.haltMarker
  tell (.programLoaded program.length)

def reset : Work Unit := do
  setMemory Memory.initial.bytes
  setRegisters Registers.zero.cells
  setIndex 0
  moveTo Memory.programStart
  clearStack
  setDelay 0
  setSound 0
  setDivider (cyclesPerTick (← inspect rate))
  clearCells
  setKeys Keypad.empty.bits
  setKeyWait none
  tell .displayReset
  tell .machineReset

end Chip8.Bare
