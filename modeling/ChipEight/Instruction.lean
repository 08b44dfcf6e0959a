import ChipEight.Word

/-!
# Instructions

What an instruction word asks for.  `Arithmetic` collects the operations on two registers and
`Condition` the tests after which an instruction may be skipped; `Word.instruction?` reads a word
and refuses those that encode nothing.
-/

namespace ChipEight

/-- An operation that combines the first register with the second and stores into the first. -/
inductive Arithmetic where
  | copy
  | or
  | and
  | xor
  | add
  | subtract
  | shiftRight
  | subtractFrom
  | shiftLeft
deriving DecidableEq

namespace Arithmetic

/-- The operation that the last digit of a word selects. -/
def ofDigit? (digit : Nibble) : Option Arithmetic :=
  match digit.val with
  | 0x0 => some .copy
  | 0x1 => some .or
  | 0x2 => some .and
  | 0x3 => some .xor
  | 0x4 => some .add
  | 0x5 => some .subtract
  | 0x6 => some .shiftRight
  | 0x7 => some .subtractFrom
  | 0xE => some .shiftLeft
  | _ => none

/-- The byte that goes to the first register.  Both shifts move the first register by one bit. -/
def result (operation : Arithmetic) (left right : UInt8) : UInt8 :=
  match operation with
  | .copy => right
  | .or => left ||| right
  | .and => left &&& right
  | .xor => left ^^^ right
  | .add => left + right
  | .subtract => left - right
  | .shiftRight => left >>> 1
  | .subtractFrom => right - left
  | .shiftLeft => left <<< 1

/--
The flag that the operation sets, if it sets one: a carry out of an addition, the absence of a
borrow in a subtraction, and the bit that a shift drops.
-/
def flag? (operation : Arithmetic) (left right : UInt8) : Option Bool :=
  match operation with
  | .copy | .or | .and | .xor => none
  | .add => some (decide (0xFF < left.toNat + right.toNat))
  | .subtract => some (decide (right ≤ left))
  | .shiftRight => some (left.toNat % 2 == 1)
  | .subtractFrom => some (decide (left ≤ right))
  | .shiftLeft => some (decide (0x80 ≤ left))

end Arithmetic

/-- A test of registers or keys. -/
inductive Condition where
  | byteEqual (x : Register) (byte : UInt8)
  | byteDifferent (x : Register) (byte : UInt8)
  | registersEqual (x y : Register)
  | registersDifferent (x y : Register)
  | keyDown (x : Register)
  | keyUp (x : Register)
deriving DecidableEq

/-- One instruction with its operands. -/
inductive Instruction where
  | clearScreen
  /-- Continue after the last pending call. -/
  | ret
  | jump (target : Address)
  /-- Note the address of this instruction and continue at another. -/
  | call (target : Address)
  /-- Pass over the next instruction if a test succeeds. -/
  | skipIf (condition : Condition)
  | setByte (x : Register) (byte : UInt8)
  /-- Add a byte, without a flag. -/
  | addByte (x : Register) (byte : UInt8)
  | arithmetic (operation : Arithmetic) (x y : Register)
  | setIndex (target : Address)
  /-- Continue at an address plus the first register. -/
  | jumpOffset (base : Address)
  /-- Store a random byte, of which only the bits of a mask are kept. -/
  | random (x : Register) (mask : UInt8)
  /-- Draw the sprite at the index, so many bytes high, where two registers say. -/
  | draw (x y : Register) (height : Nibble)
  | readDelay (x : Register)
  | waitKey (x : Register)
  | setDelay (x : Register)
  | setSound (x : Register)
  | addIndex (x : Register)
  | pointGlyph (x : Register)
  | storeDecimal (x : Register)
  /-- Write the registers up to `x` at the index and move the index past them. -/
  | storeRegisters (x : Register)
  /-- Read the registers up to `x` at the index and move the index past them. -/
  | loadRegisters (x : Register)
deriving DecidableEq

namespace Word

/-- The instructions without operands; every other word of their category is refused. -/
def systemInstruction? (word : Word) : Option Instruction :=
  match word.nnn.val with
  | 0x0E0 => some .clearScreen
  | 0x0EE => some .ret
  | _ => none

def keyInstruction? (word : Word) : Option Instruction :=
  match word.nn.toNat with
  | 0x9E => some (.skipIf (.keyDown word.x))
  | 0xA1 => some (.skipIf (.keyUp word.x))
  | _ => none

/-- Timers, keys, the index and transfers between registers and memory. -/
def deviceInstruction? (word : Word) : Option Instruction :=
  match word.nn.toNat with
  | 0x07 => some (.readDelay word.x)
  | 0x0A => some (.waitKey word.x)
  | 0x15 => some (.setDelay word.x)
  | 0x18 => some (.setSound word.x)
  | 0x1E => some (.addIndex word.x)
  | 0x29 => some (.pointGlyph word.x)
  | 0x33 => some (.storeDecimal word.x)
  | 0x55 => some (.storeRegisters word.x)
  | 0x65 => some (.loadRegisters word.x)
  | _ => none

/-- The instruction a word encodes. -/
def instruction? (word : Word) : Option Instruction :=
  match word.category.val with
  | 0x0 => word.systemInstruction?
  | 0x1 => some (.jump word.nnn)
  | 0x2 => some (.call word.nnn)
  | 0x3 => some (.skipIf (.byteEqual word.x word.nn))
  | 0x4 => some (.skipIf (.byteDifferent word.x word.nn))
  | 0x5 =>
      if word.n.val = 0 then some (.skipIf (.registersEqual word.x word.y)) else none
  | 0x6 => some (.setByte word.x word.nn)
  | 0x7 => some (.addByte word.x word.nn)
  | 0x8 => (Arithmetic.ofDigit? word.n).map (.arithmetic · word.x word.y)
  | 0x9 =>
      if word.n.val = 0 then some (.skipIf (.registersDifferent word.x word.y)) else none
  | 0xA => some (.setIndex word.nnn)
  | 0xB => some (.jumpOffset word.nnn)
  | 0xC => some (.random word.x word.nn)
  | 0xD => some (.draw word.x word.y word.n)
  | 0xE => word.keyInstruction?
  | _ => word.deviceInstruction?

end Word

end ChipEight
