import ChipEight.Machine.Action

/-!
# Microcode

A second account of the machine, operation by operation.  A microprogram reads and writes one
component after the other; when it stops, whatever it wrote before stays written.  Every access to
an array names its index and every sum that goes into a word is taken exactly.  An index outside its
array, a sum that its word cannot hold and a depth outside the stack are traps.

The operations of this module are those that the microprograms are built of, each with its effect on
a machine where it is in range.
-/

namespace ChipEight

/-- Why a microprogram stops. -/
inductive Stop where
  /-- A fault of the machine. -/
  | fault (fault : Fault)
  /-- An operation outside its range. -/
  | trap

/-- A program of operations on a machine. -/
abbrev Micro (α : Type) : Type :=
  EStateM Stop Machine α

namespace Micro

variable {α : Type} {size : Nat}

/-- Stop with a fault. -/
def fail (fault : Fault) : Micro α :=
  throw (.fault fault)

/-- Stop because an operation is outside its range. -/
def trap : Micro α :=
  throw .trap

@[simp]
theorem run_fail (fault : Fault) (machine : Machine) :
    (fail fault : Micro α).run machine = .error (.fault fault) machine :=
  rfl

@[simp]
theorem run_map {β : Type} (function : α → β) (program : Micro α) (machine : Machine) :
    (function <$> program).run machine =
      match program.run machine with
      | .ok value later => .ok (function value) later
      | .error stop later => .error stop later := by
  simp only [EStateM.run, Functor.map, EStateM.map]
  cases program machine <;> rfl

/-- The word that holds a number. -/
def fit (number : Nat) : Micro UInt16 :=
  if number < 0x10000 then pure (UInt16.ofNat number) else trap

/-- The item of an array at an index. -/
def item (values : Vector α size) (index : Nat) : Micro α :=
  if inside : index < size then pure values[index] else trap

/-- The array with the item at an index replaced. -/
def replace (values : Vector α size) (index : Nat) (value : α) : Micro (Vector α size) :=
  if inside : index < size then pure (values.set index value) else trap

theorem run_fit {number : Nat} (small : number < 0x10000) (machine : Machine) :
    (fit number).run machine = .ok (UInt16.ofNat number) machine := by
  simp [fit, small]

@[simp]
theorem run_item (values : Vector α size) (index : Fin size) (machine : Machine) :
    (item values index.val).run machine = .ok values[index] machine := by
  simp [item]

@[simp]
theorem run_replace
    (values : Vector α size) (index : Fin size) (value : α) (machine : Machine) :
    (replace values index.val value).run machine = .ok (values.set index value) machine := by
  simp [replace]

@[simp]
theorem get_eq_getElem (values : Vector α size) (index : Fin size) :
    values.get index = values[index.val] :=
  rfl

/-! ## Registers -/

def readRegister (x : Nat) : Micro UInt8 := do
  item (← get).registers x

def writeRegister (x : Nat) (byte : UInt8) : Micro Unit := do
  let registers ← replace (← get).registers x byte
  modify fun machine => { machine with registers := registers }

def writeFlag (flag : Bool) : Micro Unit :=
  writeRegister 0xF flag.toUInt8

@[simp]
theorem run_readRegister (x : Register) (machine : Machine) :
    (readRegister x.val).run machine = .ok (machine.registers.get x) machine := by
  simp [readRegister]

@[simp]
theorem run_writeRegister (x : Register) (byte : UInt8) (machine : Machine) :
    (writeRegister x.val byte).run machine = .ok () (machine.setRegister x byte) := by
  simp [writeRegister, Machine.setRegister]

@[simp]
theorem run_writeFlag (flag : Bool) (machine : Machine) :
    (writeFlag flag).run machine = .ok () (machine.setFlag flag) :=
  run_writeRegister Machine.flagRegister flag.toUInt8 machine

/-! ## The program counter -/

def goto (pc : UInt16) : Micro Unit :=
  modify fun machine => { machine with pc := pc }

def advance (distance : Nat) : Micro Unit := do
  goto (← fit ((← get).pc.toNat + distance))

def next : Micro Unit :=
  advance 2

def skip (condition : Bool) : Micro Unit :=
  advance (if condition then 4 else 2)

@[simp]
theorem run_goto (pc : UInt16) (machine : Machine) :
    (goto pc).run machine = .ok () { machine with pc := pc } := by
  simp [goto]

theorem run_advance
    {machine : Machine} (distance : UInt16)
    (small : machine.pc.toNat + distance.toNat < 0x10000) :
    (advance distance.toNat).run machine = .ok () (machine.advance distance) := by
  have exact : UInt16.ofNat (machine.pc.toNat + distance.toNat) = machine.pc + distance := by
    simp
  simp [advance, run_fit small, exact, Machine.advance]

/-- After an instruction inside memory the next one can be addressed. -/
theorem run_next {machine : Machine} (here : machine.pc.toNat ≤ 0xFFE) :
    next.run machine = .ok () machine.next :=
  run_advance 2 (by simp; omega)

theorem run_skip {machine : Machine} (here : machine.pc.toNat ≤ 0xFFE) (condition : Bool) :
    (skip condition).run machine = .ok () (machine.advance (if condition then 4 else 2)) := by
  cases condition with
  | true => exact run_advance 4 (by simp; omega)
  | false => exact run_advance 2 (by simp; omega)

/-! ## The call stack -/

def readSlot (index : Nat) : Micro UInt16 := do
  item (← get).stack.slots index

def writeSlot (index : Nat) (address : UInt16) : Micro Unit := do
  let slots ← replace (← get).stack.slots index address
  modify fun machine => { machine with stack := ⟨slots, machine.stack.depth⟩ }

def setDepth (depth : Nat) : Micro Unit :=
  if depth ≤ CallStack.capacity then
    modify fun machine => { machine with stack := ⟨machine.stack.slots, depth⟩ }
  else trap

/-- One pending call fewer; below zero there is none. -/
def lowerDepth : Micro Unit := do
  match (← get).stack.depth with
  | 0 => trap
  | depth + 1 => setDepth depth

def raiseDepth : Micro Unit := do
  setDepth ((← get).stack.depth + 1)

theorem run_readSlot {index : Nat} (inside : index < CallStack.capacity) (machine : Machine) :
    (readSlot index).run machine = .ok (machine.stack.slots[index]?.getD 0) machine := by
  simp [readSlot, item, inside]

theorem run_writeSlot
    {index : Nat} (inside : index < CallStack.capacity) (address : UInt16) (machine : Machine) :
    (writeSlot index address).run machine =
      .ok ()
        { machine with
          stack := ⟨machine.stack.slots.setIfInBounds index address, machine.stack.depth⟩ } := by
  have same : machine.stack.slots.set index address inside =
      machine.stack.slots.setIfInBounds index address := by
    apply Vector.toList_inj.mp
    rw [Vector.toList_set, Vector.toList_setIfInBounds]
  simp [writeSlot, replace, inside, same]

theorem run_setDepth {depth : Nat} (bound : depth ≤ CallStack.capacity) (machine : Machine) :
    (setDepth depth).run machine =
      .ok () { machine with stack := ⟨machine.stack.slots, depth⟩ } := by
  simp [setDepth, bound]

theorem run_raiseDepth {machine : Machine} (room : machine.stack.depth < CallStack.capacity) :
    raiseDepth.run machine =
      .ok () { machine with stack := ⟨machine.stack.slots, machine.stack.depth + 1⟩ } := by
  simp [raiseDepth, run_setDepth room]

theorem run_lowerDepth
    {machine : Machine} (pending : 0 < machine.stack.depth)
    (bound : machine.stack.depth ≤ CallStack.capacity) :
    lowerDepth.run machine = .ok () { machine with stack := machine.stack.pop } := by
  cases depth : machine.stack.depth with
  | zero =>
      rw [depth] at pending
      cases pending
  | succ lower =>
      rw [depth] at bound
      simp [lowerDepth, depth, run_setDepth (Nat.le_of_succ_le bound), CallStack.pop]

/-! ## Memory -/

/-- Where a transfer at the index starts, or the fault of one that reaches beyond memory. -/
def reach (length : Nat) : Micro Nat := do
  let machine ← get
  if Memory.size < machine.index.toNat + length then
    fail (.accessOutside (← fit (max machine.index.toNat Memory.size)) machine.pc)
  else pure machine.index.toNat

def readRange (first length : Nat) : Micro (List UInt8) := do
  let machine ← get
  if first + length ≤ Memory.size then pure (machine.memory.slice first length) else trap

/-- Both the range and the bytes must have the length. -/
def writeRange (first length : Nat) (bytes : List UInt8) : Micro Unit :=
  if first + length ≤ Memory.size ∧ bytes.length = length then
    modify fun machine => { machine with memory := machine.memory.writeAll first bytes }
  else trap

def readRegisters (count : Nat) : Micro (List UInt8) := do
  let machine ← get
  if count ≤ 16 then pure (machine.registers.toList.take count) else trap

/-- Both the registers and the bytes must be as many as the count. -/
def writeRegisters (count : Nat) (bytes : List UInt8) : Micro Unit :=
  if count ≤ 16 ∧ bytes.length = count then
    modify fun machine =>
      { machine with
        registers := Vector.ofFn fun register : Register =>
          bytes[register.val]?.getD (machine.registers.get register) }
  else trap

theorem toNat_max (left right : UInt16) :
    (max left right).toNat = max left.toNat right.toNat := by
  show (if left ≤ right then right else left).toNat = max left.toNat right.toNat
  split
  case isTrue below => exact (Nat.max_eq_right (UInt16.le_iff_toNat_le.mp below)).symm
  case isFalse above =>
    have later : right.toNat < left.toNat :=
      Nat.not_le.mp fun below => above (UInt16.le_iff_toNat_le.mpr below)
    exact (Nat.max_eq_left (Nat.le_of_lt later)).symm

/-- The check of a transfer has the fault of the transfer, and else its address. -/
theorem run_reach (length : Nat) (machine : Machine) :
    (reach length).run machine =
      match machine.reachFault? length with
      | some fault => .error (.fault fault) machine
      | none => .ok machine.index.toNat machine := by
  have highest : max machine.index.toNat Memory.size < 0x10000 :=
    Nat.max_lt.mpr ⟨machine.index.toNat_lt, by decide⟩
  have same : UInt16.ofNat (max machine.index.toNat Memory.size) =
      max machine.index (UInt16.ofNat Memory.size) := by
    apply UInt16.toNat_inj.mp
    rw [UInt16.toNat_ofNat_of_lt' highest, toNat_max]
    rfl
  by_cases overrun : Memory.size < machine.index.toNat + length
  · simp [reach, Machine.reachFault?, overrun, run_fit highest, same]
  · simp [reach, Machine.reachFault?, overrun]

theorem run_readRange
    {first length : Nat} (inside : first + length ≤ Memory.size) (machine : Machine) :
    (readRange first length).run machine = .ok (machine.memory.slice first length) machine := by
  simp [readRange, inside]

/-- A range inside memory is written without a trap by as many bytes as it has. -/
theorem run_writeRange
    {first length : Nat} {bytes : List UInt8} (inside : first + length ≤ Memory.size)
    (whole : bytes.length = length) (machine : Machine) :
    (writeRange first length bytes).run machine =
      .ok () { machine with memory := machine.memory.writeAll first bytes } := by
  simp [writeRange, inside, whole]

/-- The registers up to `x` take the bytes of a range in order, the others stay. -/
theorem run_writeRegisters (x : Register) (memory : Memory) (first : Nat) (machine : Machine) :
    (writeRegisters (x.val + 1) (memory.slice first (x.val + 1))).run machine =
      .ok ()
        { machine with
          registers := Vector.ofFn fun register : Register =>
            if register ≤ x then memory.read (first + register.val)
            else machine.registers.get register } := by
  have inside : x.val + 1 ≤ 16 := x.isLt
  have taken (register : Register) :
      (memory.slice first (x.val + 1))[register.val]?.getD (machine.registers.get register) =
        if register ≤ x then memory.read (first + register.val)
        else machine.registers.get register := by
    by_cases below : register ≤ x
    · have place : register.val < x.val + 1 := Nat.lt_succ_of_le below
      simp [Memory.slice, below, place]
    · have place : ¬ register.val < x.val + 1 := fun place => below (Nat.le_of_lt_succ place)
      simp [Memory.slice, below, place]
  simp only [writeRegisters, inside, Memory.length_slice, and_self, if_true, EStateM.run_modify,
    taken]

@[simp]
theorem run_readRegisters (x : Register) (machine : Machine) :
    (readRegisters (x.val + 1)).run machine = .ok (machine.registersUpTo x) machine := by
  have inside : x.val + 1 ≤ 16 := x.isLt
  simp [readRegisters, inside, Machine.registersUpTo]

end Micro

end ChipEight
