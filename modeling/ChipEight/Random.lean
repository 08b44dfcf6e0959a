import ChipEight.Word

/-!
# The random source

A source is an endless stream of bytes, whichever it is, and how many of them were drawn.  The
machine asks a source for its next byte and for what is left after it, and for nothing else, so
any stream will do.

The stream of a seed is one of them.  The seed is expanded to the key of a block function, the
stream runs through the words of block 0, block 1 and so on, and of each word the low byte is used.
A block is sixteen words computed from the key, which has eight words, and the number of the block:
the initial state is stirred by twelve rounds and added to the result.
-/

namespace ChipEight

/-- A stream of bytes and how many of them were drawn. -/
structure Random where
  stream : Nat → UInt8
  drawn : Nat

namespace Random

def next (random : Random) : UInt8 :=
  random.stream random.drawn

def rest (random : Random) : Random :=
  { random with drawn := random.drawn + 1 }

/-- A source of which nothing was drawn. -/
def ofStream (stream : Nat → UInt8) : Random :=
  ⟨stream, 0⟩

/-! ## The blocks of a key -/

/-- Eight words that fix a stream. -/
abbrev Key := Vector UInt32 8

abbrev State := Vector UInt32 16

/-- The bits moved to the right, those that fall off coming back on the left. -/
def rotateRight (word amount : UInt32) : UInt32 :=
  (word >>> amount) ||| (word <<< (32 - amount))

/-- The bits moved to the left, those that fall off coming back on the right. -/
def rotateLeft (word amount : UInt32) : UInt32 :=
  (word <<< amount) ||| (word >>> (32 - amount))

/-- One half of a quarter round: add, then mix and rotate twice. -/
def halfQuarter
    (first second : UInt32) (a b c d : Fin 16) (state : State) : State :=
  let state := state.set a (state[a] + state[b])
  let state := state.set d (rotateLeft (state[d] ^^^ state[a]) first)
  let state := state.set c (state[c] + state[d])
  state.set b (rotateLeft (state[b] ^^^ state[c]) second)

def quarterRound (a b c d : Fin 16) (state : State) : State :=
  halfQuarter 8 7 a b c d (halfQuarter 16 12 a b c d state)

/-- The place of a word when the state is laid out in four rows, columns counted around. -/
def place (row column : Nat) : Fin 16 :=
  ⟨(4 * row + column % 4) % 16, Nat.mod_lt _ (by decide)⟩

/-- Stir four words, one of each row, each `slant` columns to the right of the one above. -/
def slantedQuarter (slant column : Nat) : State → State :=
  quarterRound (place 0 column) (place 1 (column + slant)) (place 2 (column + 2 * slant))
    (place 3 (column + 3 * slant))

def round (slant : Nat) (state : State) : State :=
  (List.range 4).foldl (fun state column => slantedQuarter slant column state) state

/-- A round over the columns of the state, then one over its diagonals. -/
def doubleRound (state : State) : State :=
  round 1 (round 0 state)

/-- Constants, key, number of the block with its low word first, and two zero words. -/
def initialState (key : Key) (number : Nat) : State :=
  #v[0x61707865, 0x3320646E, 0x79622D32, 0x6B206574,
    key[0], key[1], key[2], key[3], key[4], key[5], key[6], key[7],
    UInt32.ofNat number, UInt32.ofNat (number / 0x100000000), 0, 0]

def stir (state : State) : State :=
  (List.range 6).foldl (fun state _ => doubleRound state) state

def block (key : Key) (number : Nat) : State :=
  (initialState key number).zipWith (· + ·) (stir (initialState key number))

/-- The byte at a position of the stream of a key. -/
def byteAt (key : Key) (position : Nat) : UInt8 :=
  (block key (position / 16))[Nibble.ofNat position].toUInt8

/-! ## The key of a seed -/

/-- One step of the generator that expands a seed. -/
def advanceSeed (state : UInt64) : UInt64 :=
  state * 6364136223846793005 + 11634580027462260723

/-- The generator's state after `count + 1` steps. -/
def seedState (seed : UInt64) : Nat → UInt64
  | 0 => advanceSeed seed
  | count + 1 => advanceSeed (seedState seed count)

/-- The word a state yields: its high bits, folded and rotated as its top five bits say. -/
def seedWord (state : UInt64) : UInt32 :=
  rotateRight (((state >>> 18) ^^^ state) >>> 27).toUInt32 (state >>> 59).toUInt32

def keyOfSeed (seed : UInt64) : Key :=
  Vector.ofFn fun index : Fin 8 => seedWord (seedState seed index)

/-- The stream of a seed. -/
def bytesOfSeed (seed : UInt64) : Nat → UInt8 :=
  byteAt (keyOfSeed seed)

def ofSeed (seed : UInt64) : Random :=
  ofStream (bytesOfSeed seed)

end Random

end ChipEight
