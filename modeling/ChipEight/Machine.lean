import ChipEight.CallStack
import ChipEight.Frame
import ChipEight.Notice
import ChipEight.Random

/-!
# The machine

The whole state of the machine, its starting state, and the state in which a loaded program
starts.  Neither depends on what the machine did before, except that the random source goes on
where it was: `reset` and `load` keep nothing else.
-/

namespace ChipEight

structure Machine where
  pc : UInt16
  /-- Where transfers and sprites start. -/
  index : UInt16
  /-- Sixteen bytes, the last of which also takes the flags. -/
  registers : Vector UInt8 16
  memory : Memory
  stack : CallStack
  /-- Counts down to zero, one a step. -/
  delay : UInt8
  /-- Counts down to zero, one a step; a tone sounds until then. -/
  sound : UInt8
  screen : Screen
  keypad : Keypad
  random : Random
  /-- Set by a fault, cleared by a reset. -/
  halted : Bool

/-- What came of an operation: the machine after it, its result and what it told. -/
structure Outcome where
  machine : Machine
  result : Except Fault Unit
  notices : List Notice

namespace Machine

/-- The register that takes carries, borrows, dropped bits and collisions. -/
abbrev flagRegister : Register := ⟨15, by decide⟩

/-- The machine that is about to run a program and has nothing else to remember. -/
def start (program : Array UInt8) (random : Random) : Machine where
  pc := UInt16.ofNat Memory.programStart
  index := 0
  registers := Vector.replicate 16 0
  memory := Memory.image program
  stack := CallStack.empty
  delay := 0
  sound := 0
  screen := Screen.dark.requestRedraw
  keypad := Keypad.released
  random := random
  halted := false

def create (random : Random) : Outcome :=
  ⟨start #[] random, .ok (), [.machineReset]⟩

/-- Back to the start, without a program. -/
def reset (machine : Machine) : Outcome :=
  ⟨start #[] machine.random, .ok (), [.machineReset]⟩

/-- Back to the start with a program, unless it is too large; then nothing changes. -/
def load (program : Array UInt8) (machine : Machine) : Outcome :=
  if Memory.programCapacity < program.size then
    ⟨machine, .error (.programTooLarge program.size), []⟩
  else
    ⟨start program machine.random, .ok (), [.machineReset, .programLoaded program.size]⟩

/-- A program that is too large is refused, and the machine stays as it is. -/
theorem load_of_lt
    {program : Array UInt8} (large : Memory.programCapacity < program.size) (machine : Machine) :
    machine.load program = ⟨machine, .error (.programTooLarge program.size), []⟩ :=
  if_pos large

/-- A program that fits is started. -/
theorem load_of_le
    {program : Array UInt8} (fits : program.size ≤ Memory.programCapacity) (machine : Machine) :
    machine.load program =
      ⟨start program machine.random, .ok (), [.machineReset, .programLoaded program.size]⟩ :=
  if_neg (Nat.not_lt.mpr fits)

end Machine

end ChipEight
