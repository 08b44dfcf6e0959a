import ChipEight.Instruction
import ChipEight.Machine

/-!
# Carrying out an instruction

Three functions of the machine on which an instruction starts: `fault?` says whether it may be
carried out at all, `execute` is the machine after it, and `executionNotices` is what it tells.
An instruction is carried out only when it has no fault, so `execute` may assume that transfers
stay inside memory and that the call stack has a slot to write or an entry to read.

The timers are not the business of single instructions; see `ChipEight.Machine.Action`.
-/

namespace ChipEight.Machine

/-- The fault of a transfer of `length` bytes at the index, if it leaves memory. -/
def reachFault? (machine : Machine) (length : Nat) : Option Fault :=
  if Memory.size < machine.index.toNat + length then
    some (.accessOutside (max machine.index (UInt16.ofNat Memory.size)) machine.pc)
  else none

/-- The fault of an instruction on a machine, if it cannot be carried out there. -/
def fault? (machine : Machine) : Instruction → Option Fault
  | .ret => if machine.stack.depth = 0 then some (.stackUnderflow machine.pc) else none
  | .call _ =>
      if CallStack.capacity ≤ machine.stack.depth then some (.stackOverflow machine.pc) else none
  | .draw _ _ height => machine.reachFault? height.val
  | .storeDecimal _ => machine.reachFault? 3
  | .storeRegisters x => machine.reachFault? (x.val + 1)
  | .loadRegisters x => machine.reachFault? (x.val + 1)
  | _ => none

def holds (machine : Machine) : Condition → Bool
  | .byteEqual x byte => machine.registers[x] == byte
  | .byteDifferent x byte => machine.registers[x] != byte
  | .registersEqual x y => machine.registers[x] == machine.registers[y]
  | .registersDifferent x y => machine.registers[x] != machine.registers[y]
  | .keyDown x => machine.keypad.isDown (Key.ofByte machine.registers[x])
  | .keyUp x => !machine.keypad.isDown (Key.ofByte machine.registers[x])

def advance (machine : Machine) (distance : UInt16) : Machine :=
  { machine with pc := machine.pc + distance }

def next (machine : Machine) : Machine :=
  machine.advance 2

def setRegister (machine : Machine) (x : Register) (byte : UInt8) : Machine :=
  { machine with registers := machine.registers.set x byte }

/-- Store a flag as 1 or 0 in the flag register. -/
def setFlag (machine : Machine) (flag : Bool) : Machine :=
  machine.setRegister flagRegister flag.toUInt8

/-- The first registers, up to `x`, in order. -/
def registersUpTo (machine : Machine) (x : Register) : List UInt8 :=
  machine.registers.toList.take (x.val + 1)

/-- The decimal digits of a byte: hundreds, tens and ones. -/
def decimalDigits (byte : UInt8) : List UInt8 :=
  [byte / 100, byte / 10 % 10, byte % 10]

/-- The result of an operation and then its flag, which stays if both go to one register. -/
def combine (machine : Machine) (operation : Arithmetic) (x y : Register) : Machine :=
  let left := machine.registers[x]
  let right := machine.registers[y]
  let stored := machine.setRegister x (operation.result left right)
  match operation.flag? left right with
  | some flag => stored.setFlag flag
  | none => stored

/-- Draw the sprite at the index and note whether it turned a pixel off. -/
def drawSprite (machine : Machine) (x y : Register) (height : Nibble) : Machine :=
  let sprite := machine.memory.slice machine.index.toNat height.val
  let column := machine.registers[x].toNat
  let row := machine.registers[y].toNat
  let collision := machine.screen.frame.collides column row sprite
  { machine with screen := machine.screen.draw column row sprite }.setFlag collision

/-- Move the index by a register inside the twelve bits of an address and note a carry. -/
def moveIndex (machine : Machine) (x : Register) : Machine :=
  let sum := machine.index.toNat + machine.registers[x].toNat
  { machine with index := UInt16.ofNat (sum % Memory.size) }.setFlag
    (decide (Memory.size ≤ sum))

/-- Read the registers up to `x` at the index. -/
def fillRegisters (machine : Machine) (x : Register) : Machine :=
  { machine with
    registers := Vector.ofFn fun register : Register =>
      if register ≤ x then machine.memory.read (machine.index.toNat + register.val)
      else machine.registers[register] }

/-- Move the index past the bytes of a transfer. -/
def passIndex (machine : Machine) (x : Register) : Machine :=
  { machine with index := machine.index + UInt16.ofNat (x.val + 1) }

/-- The machine after an instruction, before the timers count down. -/
def execute (machine : Machine) : Instruction → Machine
  | .clearScreen => { machine with screen := machine.screen.clear }.next
  | .ret => { machine with pc := machine.stack.top, stack := machine.stack.pop }.next
  | .jump target => { machine with pc := target.toUInt16 }
  | .call target =>
      { machine with pc := target.toUInt16, stack := machine.stack.push machine.pc }
  | .skipIf condition => machine.advance (if machine.holds condition then 4 else 2)
  | .setByte x byte => (machine.setRegister x byte).next
  | .addByte x byte => (machine.setRegister x (machine.registers[x] + byte)).next
  | .arithmetic operation x y => (machine.combine operation x y).next
  | .setIndex target => { machine with index := target.toUInt16 }.next
  | .jumpOffset base =>
      { machine with pc := base.toUInt16 + machine.registers[0].toUInt16 }
  | .random x mask =>
      { machine.setRegister x (machine.random.next &&& mask) with
        random := machine.random.rest }.next
  | .draw x y height => (machine.drawSprite x y height).next
  | .readDelay x => (machine.setRegister x machine.delay).next
  | .waitKey x =>
      match machine.keypad.first? with
      | some key => (machine.setRegister x (UInt8.ofNat key.val)).next
      | none => machine
  | .setDelay x => { machine with delay := machine.registers[x] }.next
  | .setSound x => { machine with sound := machine.registers[x] }.next
  | .addIndex x => (machine.moveIndex x).next
  | .pointGlyph x =>
      { machine with
        index := Memory.glyphAddress (Nibble.ofNat machine.registers[x].toNat) }.next
  | .storeDecimal x =>
      { machine with
        memory := machine.memory.writeAll machine.index.toNat
          (decimalDigits machine.registers[x]) }.next
  | .storeRegisters x =>
      { machine with
        memory := machine.memory.writeAll machine.index.toNat
          (machine.registersUpTo x) }.passIndex x |>.next
  | .loadRegisters x => (machine.fillRegisters x).passIndex x |>.next

/-- What an instruction tells when it is carried out. -/
def executionNotices (machine : Machine) : Instruction → List Notice
  | .ret => [.returned machine.pc machine.stack.top]
  | .call target => [.called target.toUInt16 machine.pc]
  | .waitKey _ =>
      match machine.keypad.first? with
      | some key => [.waitEnded key machine.pc]
      | none => []
  | _ => []

end ChipEight.Machine
