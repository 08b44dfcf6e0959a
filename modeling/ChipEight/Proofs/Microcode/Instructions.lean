import ChipEight.Proofs.Bounds
import ChipEight.Proofs.Microcode.Sprite

/-!
# The microprograms of the instructions

One microprogram for each kind of instruction, written in the order in which it checks, reads and
writes, and the tables through which a word finds its microprogram.  A microprogram performs an
instruction on a machine if it stops with the fault of the instruction before it wrote anything, or
else ends with the machine that `execute` gives.

Every microprogram performs its instruction on every machine within the bounds whose program counter
lies at a whole word.
-/

namespace ChipEight.Micro

/-- A microprogram that finds its operands in a word. -/
abbrev Handler : Type :=
  Word → Micro Unit

/-! ## Microprograms -/

def unknown : Handler := fun word => do
  fail (.unknownWord word (← get).pc)

def clearScreen : Handler := fun _ => do
  modify fun machine => { machine with screen := machine.screen.clear }
  next

def ret : Handler := fun _ => do
  let machine ← get
  if machine.stack.depth = 0 then fail (.stackUnderflow machine.pc)
  else
    lowerDepth
    goto (← readSlot (← get).stack.depth)
    next

def jump : Handler := fun word =>
  goto word.nnn.toUInt16

def call : Handler := fun word => do
  let machine ← get
  if CallStack.capacity ≤ machine.stack.depth then fail (.stackOverflow machine.pc)
  else
    writeSlot machine.stack.depth machine.pc
    raiseDepth
    goto word.nnn.toUInt16

def compareByte (test : UInt8 → UInt8 → Bool) : Handler := fun word => do
  skip (test (← readRegister word.x) word.nn)

def compareRegisters (test : UInt8 → UInt8 → Bool) : Handler := fun word => do
  if word.n.val = 0 then
    skip (test (← readRegister word.x) (← readRegister word.y))
  else unknown word

def testKey (test : Bool → Bool) : Handler := fun word => do
  let byte ← readRegister word.x
  skip (test (← item (← get).keypad.keys (byte &&& 0xF).toNat))

/-- Store a byte that the program finds for the word. -/
def store (byte : Word → Micro UInt8) : Handler := fun word => do
  writeRegister word.x (← byte word)
  next

def literalByte (word : Word) : Micro UInt8 :=
  pure word.nn

def addedByte (word : Word) : Micro UInt8 := do
  pure ((← readRegister word.x) + word.nn)

def randomByte (word : Word) : Micro UInt8 := do
  let machine ← get
  set { machine with random := machine.random.rest }
  pure (machine.random.next &&& word.nn)

def delayByte (_word : Word) : Micro UInt8 := do
  pure (← get).delay

def combine (operation : Arithmetic) : Handler := fun word => do
  let left ← readRegister word.x
  let right ← readRegister word.y
  writeRegister word.x (operation.result left right)
  match operation.flag? left right with
  | some flag => writeFlag flag
  | none => pure ()
  next

def setIndex (address : UInt16) : Micro Unit :=
  modify fun machine => { machine with index := address }

def pointIndex : Handler := fun word => do
  setIndex word.nnn.toUInt16
  next

def jumpOffset : Handler := fun word => do
  goto (← fit (word.nnn.val + (← readRegister 0).toNat))

def draw : Handler := fun word => do
  let first ← reach word.n
  let column ← readRegister word.x
  let row ← readRegister word.y
  let sprite ← readRange first word.n
  let collision ← drawSprite column.toNat row.toNat sprite
  writeFlag collision
  next

def waitKey : Handler := fun word => do
  match (← get).keypad.first? with
  | some key =>
      writeRegister word.x (UInt8.ofNat key.val)
      next
  | none => pure ()

def setDelay : Handler := fun word => do
  let byte ← readRegister word.x
  modify fun machine => { machine with delay := byte }
  next

def setSound : Handler := fun word => do
  let byte ← readRegister word.x
  modify fun machine => { machine with sound := byte }
  next

def addIndex : Handler := fun word => do
  let sum := (← get).index.toNat + (← readRegister word.x).toNat
  setIndex (← fit (sum % Memory.size))
  writeFlag (decide (Memory.size ≤ sum))
  next

def pointGlyph : Handler := fun word => do
  let byte ← readRegister word.x
  setIndex (← fit (byte.toNat % 16 * Memory.glyphSize))
  next

def passIndex (count : Nat) : Micro Unit := do
  setIndex (← fit ((← get).index.toNat + count))

def storeDecimal : Handler := fun word => do
  let first ← reach 3
  let byte ← readRegister word.x
  writeRange first 3 [byte / 100, byte / 10 % 10, byte % 10]
  next

def storeRegisters : Handler := fun word => do
  let count := word.x.val + 1
  let first ← reach count
  writeRange first count (← readRegisters count)
  passIndex count
  next

def loadRegisters : Handler := fun word => do
  let count := word.x.val + 1
  let first ← reach count
  writeRegisters count (← readRange first count)
  passIndex count
  next

/-! ## Tables -/

/-- The microprogram of the last two digits of a word. -/
def dispatch (table : List (UInt8 × Handler)) : Handler := fun word =>
  match table.find? fun entry => entry.1 == word.nn with
  | some entry => entry.2 word
  | none => unknown word

def system : Handler := fun word =>
  if word.x.val = 0 then dispatch [(0xE0, clearScreen), (0xEE, ret)] word else unknown word

/-- The microprograms of category 8, by the last digit. -/
def arithmeticTable : Vector Handler 16 :=
  #v[combine .copy, combine .or, combine .and, combine .xor,
    combine .add, combine .subtract, combine .shiftRight, combine .subtractFrom,
    unknown, unknown, unknown, unknown,
    unknown, unknown, combine .shiftLeft, unknown]

def arithmetic : Handler := fun word => do
  let handler ← item arithmeticTable word.n
  handler word

def keys : Handler :=
  dispatch [(0x9E, testKey id), (0xA1, testKey not)]

def devices : Handler :=
  dispatch
    [(0x07, store delayByte),
      (0x0A, waitKey),
      (0x15, setDelay),
      (0x18, setSound),
      (0x1E, addIndex),
      (0x29, pointGlyph),
      (0x33, storeDecimal),
      (0x55, storeRegisters),
      (0x65, loadRegisters)]

/-- The microprograms of the categories. -/
def categories : Vector Handler 16 :=
  #v[system,
    jump,
    call,
    compareByte fun left right => left == right,
    compareByte fun left right => left != right,
    compareRegisters fun left right => left == right,
    store literalByte,
    store addedByte,
    arithmetic,
    compareRegisters fun left right => left != right,
    pointIndex,
    jumpOffset,
    store randomByte,
    draw,
    keys,
    devices]

/-- The microprogram of a word. -/
def handle : Handler := fun word => do
  let handler ← item categories (word.bits.toNat / 0x1000)
  handler word

/-! ## Every microprogram performs its instruction -/

/-- The program stops with the fault of the instruction, nothing written, or carries it out. -/
def Performs (program : Micro Unit) (machine : Machine) (instruction : Instruction) : Prop :=
  program.run machine =
    match machine.fault? instruction with
    | some fault => .error (.fault fault) machine
    | none => .ok () (machine.execute instruction)

@[simp]
theorem run_unknown (word : Word) (machine : Machine) :
    (unknown word).run machine = .error (.fault (.unknownWord word machine.pc)) machine := by
  simp [unknown]

@[simp]
theorem pc_setRegister (machine : Machine) (x : Register) (byte : UInt8) :
    (machine.setRegister x byte).pc = machine.pc := by
  simp [Machine.setRegister]

@[simp]
theorem pc_setFlag (machine : Machine) (flag : Bool) : (machine.setFlag flag).pc = machine.pc := by
  simp [Machine.setFlag]

@[simp]
theorem run_setIndex (address : UInt16) (machine : Machine) :
    (setIndex address).run machine = .ok () { machine with index := address } := by
  simp [setIndex]

@[simp]
theorem pc_passIndex (machine : Machine) (x : Register) :
    (machine.passIndex x).pc = machine.pc := by
  simp [Machine.passIndex]

@[simp]
theorem length_registersUpTo (machine : Machine) (x : Register) :
    (machine.registersUpTo x).length = x.val + 1 := by
  have inside : x.val + 1 ≤ 16 := x.isLt
  rw [Machine.registersUpTo, List.length_take, Vector.length_toList]
  exact Nat.min_eq_left inside

theorem run_passIndex
    {machine : Machine} (x : Register)
    (inside : machine.index.toNat + (x.val + 1) ≤ Memory.size) :
    (passIndex (x.val + 1)).run machine = .ok () (machine.passIndex x) := by
  have small : machine.index.toNat + (x.val + 1) < 0x10000 :=
    Nat.lt_of_le_of_lt inside (by decide)
  have exact : UInt16.ofNat (machine.index.toNat + (x.val + 1)) =
      machine.index + UInt16.ofNat (x.val + 1) := by
    simp
  simp [passIndex, run_fit small, Machine.passIndex]

theorem toNat_and_low (byte : UInt8) : (byte &&& 0xF).toNat = (Key.ofByte byte).val := by
  rw [UInt8.toNat_and]
  exact Nat.and_two_pow_sub_one_eq_mod byte.toNat 4

section Performs

variable {machine : Machine} (word : Word)

theorem call_performs : Performs (call word) machine (.call word.nnn) := by
  by_cases full : CallStack.capacity ≤ machine.stack.depth
  · simp [Performs, call, full, Machine.fault?]
  · have room : machine.stack.depth < CallStack.capacity := Nat.not_le.mp full
    simp [Performs, call, full, Machine.fault?, run_writeSlot room, run_raiseDepth, room,
      Machine.execute, CallStack.push]

theorem jump_performs : Performs (jump word) machine (.jump word.nnn) := by
  simp [Performs, jump, Machine.fault?, Machine.execute]

theorem jumpOffset_performs : Performs (jumpOffset word) machine (.jumpOffset word.nnn) := by
  have small : word.nnn.val + machine.registers[0].toNat < 0x10000 := by
    have offset : machine.registers[0].toNat < 0x100 := UInt8.toNat_lt _
    omega
  have exact : UInt16.ofNat (word.nnn.val + machine.registers[0].toNat) =
      word.nnn.toUInt16 + machine.registers[0].toUInt16 := by
    apply UInt16.toNat_inj.mp
    rw [UInt16.toNat_ofNat_of_lt' small, UInt16.toNat_add]
    exact (Nat.mod_eq_of_lt small).symm
  have first : (readRegister 0).run machine = .ok machine.registers[0] machine :=
    run_readRegister 0 machine
  simp [Performs, jumpOffset, first, run_fit small, exact, Machine.fault?, Machine.execute]

theorem ret_performs (bounded : machine.Bounded) : Performs (ret word) machine .ret := by
  by_cases empty : machine.stack.depth = 0
  · simp [Performs, ret, empty, Machine.fault?]
  · have pending : 0 < machine.stack.depth := Nat.pos_of_ne_zero empty
    have inside : machine.stack.pop.depth < CallStack.capacity :=
      Nat.lt_of_lt_of_le (Nat.sub_lt pending Nat.one_pos) bounded.depth_le
    have caller : machine.stack.top.toNat ≤ 0xFFE := bounded.top_le pending
    have top : machine.stack.pop.slots[machine.stack.pop.depth]?.getD 0 = machine.stack.top :=
      rfl
    simp [Performs, ret, empty, Machine.fault?, run_lowerDepth pending bounded.depth_le,
      run_readSlot inside, top, run_next, caller, Machine.execute]

/-- A transfer checks its reach before it does anything else. -/
theorem transfer_performs
    {length : Nat} {transfer : Nat → Micro Unit} {instruction : Instruction}
    (checked : machine.fault? instruction = machine.reachFault? length)
    (carried : machine.index.toNat + length ≤ Memory.size →
      (transfer machine.index.toNat).run machine = .ok () (machine.execute instruction)) :
    Performs (reach length >>= transfer) machine instruction := by
  cases fault : machine.reachFault? length with
  | some found => simp [Performs, run_reach, checked, fault]
  | none =>
      have inside := (Machine.reachFault?_eq_none_iff machine length).mp fault
      simp [Performs, run_reach, checked, fault, carried inside]

variable (here : machine.pc.toNat ≤ 0xFFE)

include here

theorem clearScreen_performs : Performs (clearScreen word) machine .clearScreen := by
  simp [Performs, clearScreen, Machine.fault?, Machine.execute, run_next, here]

theorem compareByte_performs
    {test : UInt8 → UInt8 → Bool} {condition : Condition}
    (same : machine.holds condition = test machine.registers[word.x] word.nn) :
    Performs (compareByte test word) machine (.skipIf condition) := by
  simp [Performs, compareByte, Machine.fault?, Machine.execute, run_skip here, same]

theorem compareRegisters_performs
    {test : UInt8 → UInt8 → Bool} {condition : Condition} (last : word.n.val = 0)
    (same : machine.holds condition = test machine.registers[word.x] machine.registers[word.y]) :
    Performs (compareRegisters test word) machine (.skipIf condition) := by
  simp [Performs, compareRegisters, last, Machine.fault?, Machine.execute, run_skip here, same]

theorem testKey_performs
    {test : Bool → Bool} {condition : Condition}
    (same : machine.holds condition =
      test (machine.keypad.isDown (Key.ofByte machine.registers[word.x]))) :
    Performs (testKey test word) machine (.skipIf condition) := by
  simp [-UInt8.toNat_and, Performs, testKey, toNat_and_low, Machine.fault?, Machine.execute,
    run_skip here, same, Keypad.isDown]

/-- An instruction that finds a byte and stores it performs what that comes to. -/
theorem store_performs
    {byte : Word → Micro UInt8} {value : UInt8} {later : Machine} {instruction : Instruction}
    (found : (byte word).run machine = .ok value later) (stays : later.pc = machine.pc)
    (harmless : machine.fault? instruction = none)
    (same : machine.execute instruction = (later.setRegister word.x value).next) :
    Performs (store byte word) machine instruction := by
  simp [Performs, store, found, harmless, same, run_next, stays, here]

theorem setByte_performs : Performs (store literalByte word) machine (.setByte word.x word.nn) := by
  have found : (literalByte word).run machine = .ok word.nn machine := by simp [literalByte]
  exact store_performs word here found rfl rfl rfl

theorem addByte_performs : Performs (store addedByte word) machine (.addByte word.x word.nn) := by
  have found : (addedByte word).run machine =
      .ok (machine.registers[word.x] + word.nn) machine := by
    simp [addedByte]
  exact store_performs word here found rfl rfl rfl

/-- The run that finds the byte holds by unfolding alone; to rewrite it would have the byte
computed. -/
theorem random_performs : Performs (store randomByte word) machine (.random word.x word.nn) := by
  have found : (randomByte word).run machine =
      .ok (machine.random.next &&& word.nn) { machine with random := machine.random.rest } := by
    rfl
  exact store_performs word here found rfl rfl rfl

theorem readDelay_performs : Performs (store delayByte word) machine (.readDelay word.x) := by
  have found : (delayByte word).run machine = .ok machine.delay machine := by simp [delayByte]
  exact store_performs word here found rfl rfl rfl

theorem combine_performs (operation : Arithmetic) :
    Performs (combine operation word) machine (.arithmetic operation word.x word.y) := by
  cases flag : operation.flag? machine.registers[word.x.val] machine.registers[word.y.val] with
  | none =>
      simp [Performs, combine, flag, Machine.fault?, Machine.execute, Machine.combine, run_next,
        here]
  | some flagValue =>
      simp [Performs, combine, flag, Machine.fault?, Machine.execute, Machine.combine, run_next,
        here]

theorem pointIndex_performs : Performs (pointIndex word) machine (.setIndex word.nnn) := by
  simp [Performs, pointIndex, Machine.fault?, Machine.execute, run_next, here]

theorem waitKey_performs : Performs (waitKey word) machine (.waitKey word.x) := by
  cases found : machine.keypad.first? with
  | none => simp [Performs, waitKey, found, Machine.fault?, Machine.execute]
  | some key => simp [Performs, waitKey, found, Machine.fault?, Machine.execute, run_next, here]

theorem setDelay_performs : Performs (setDelay word) machine (.setDelay word.x) := by
  simp [Performs, setDelay, Machine.fault?, Machine.execute, run_next, here]

theorem setSound_performs : Performs (setSound word) machine (.setSound word.x) := by
  simp [Performs, setSound, Machine.fault?, Machine.execute, run_next, here]

theorem addIndex_performs : Performs (addIndex word) machine (.addIndex word.x) := by
  have small :
      (machine.index.toNat + machine.registers[word.x.val].toNat) % Memory.size < 0x10000 :=
    Nat.lt_trans (Nat.mod_lt _ (by decide)) (by decide)
  simp [Performs, addIndex, run_fit small, Machine.fault?, Machine.execute, Machine.moveIndex,
    run_next, here]

theorem pointGlyph_performs : Performs (pointGlyph word) machine (.pointGlyph word.x) := by
  have small : machine.registers[word.x.val].toNat % 16 * Memory.glyphSize < 0x10000 := by
    simp only [Memory.glyphSize]
    omega
  simp [Performs, pointGlyph, run_fit small, Machine.fault?, Machine.execute,
    Memory.glyphAddress, run_next, here]

theorem draw_performs : Performs (draw word) machine (.draw word.x word.y word.n) := by
  refine transfer_performs rfl ?_
  intro inside
  simp [run_readRange inside, run_drawSprite, Machine.execute, Machine.drawSprite, run_next, here]

theorem storeDecimal_performs : Performs (storeDecimal word) machine (.storeDecimal word.x) := by
  refine transfer_performs rfl ?_
  intro inside
  simp [run_writeRange inside, Machine.execute, Machine.decimalDigits, run_next, here]

theorem storeRegisters_performs :
    Performs (storeRegisters word) machine (.storeRegisters word.x) := by
  refine transfer_performs rfl ?_
  intro inside
  simp [run_writeRange inside, Machine.execute, run_passIndex, run_next, here, inside]

theorem loadRegisters_performs :
    Performs (loadRegisters word) machine (.loadRegisters word.x) := by
  refine transfer_performs rfl ?_
  intro inside
  simp [run_readRange inside, run_writeRegisters, Machine.execute, Machine.fillRegisters,
    run_passIndex, run_next, here, inside]

end Performs

/-! ## Every word finds its microprogram -/

/-- The program refuses an unknown word, nothing written, or performs its instruction. -/
def Follows (program : Micro Unit) (machine : Machine) (word : Word) : Option Instruction → Prop
  | some instruction => Performs program machine instruction
  | none => program.run machine = .error (.fault (.unknownWord word machine.pc)) machine

/-- The table has the operation of a digit at its place. -/
theorem arithmeticTable_getElem (digit : Nibble) :
    arithmeticTable[digit] =
      match Arithmetic.ofDigit? digit with
      | some operation => combine operation
      | none => unknown := by
  revert digit
  simp only [Fin.forall_fin_succ]
  exact ⟨rfl, rfl, rfl, rfl, rfl, rfl, rfl, rfl, rfl, rfl, rfl, rfl, rfl, rfl, rfl, rfl, nofun⟩

theorem beq_nn (byte : UInt8) (word : Word) :
    (byte == word.nn) = decide (word.nn.toNat = byte.toNat) := by
  rw [Bool.eq_iff_iff, beq_iff_eq, decide_eq_true_iff, UInt8.toNat_inj, eq_comm]

/-- A word goes to the handler of its last byte. -/
theorem dispatch_of_find
    {word : Word} {table : List (UInt8 × Handler)} {handler : Handler} (byte : UInt8)
    (same : word.nn.toNat = byte.toNat)
    (found : table.find? (fun entry => entry.1 == byte) = some (byte, handler)) :
    dispatch table word = handler word := by
  simp [dispatch, UInt8.toNat_inj.mp same, found]

section Follows

variable {machine : Machine} (here : machine.pc.toNat ≤ 0xFFE) (word : Word)

include here

/-- A comparison of registers wants the last digit of its word to be zero. -/
theorem compareRegisters_follows
    {test : UInt8 → UInt8 → Bool} {condition : Condition}
    (same : machine.holds condition = test machine.registers[word.x] machine.registers[word.y]) :
    Follows (compareRegisters test word) machine word
      (if word.n.val = 0 then some (.skipIf condition) else none) := by
  by_cases last : word.n.val = 0
  · rw [if_pos last]
    exact compareRegisters_performs word here last same
  · simp [Follows, compareRegisters, last]

theorem keys_follows : Follows (keys word) machine word word.keyInstruction? := by
  unfold Word.keyInstruction?
  split
  case h_1 byte =>
    rw [keys, dispatch_of_find 0x9E byte rfl]
    exact testKey_performs word here rfl
  case h_2 byte =>
    rw [keys, dispatch_of_find 0xA1 byte rfl]
    exact testKey_performs word here rfl
  case h_3 => simp_all [Follows, keys, dispatch, beq_nn]

theorem devices_follows : Follows (devices word) machine word word.deviceInstruction? := by
  unfold Word.deviceInstruction?
  split
  case h_1 byte =>
    rw [devices, dispatch_of_find 0x07 byte rfl]
    exact readDelay_performs word here
  case h_2 byte =>
    rw [devices, dispatch_of_find 0x0A byte rfl]
    exact waitKey_performs word here
  case h_3 byte =>
    rw [devices, dispatch_of_find 0x15 byte rfl]
    exact setDelay_performs word here
  case h_4 byte =>
    rw [devices, dispatch_of_find 0x18 byte rfl]
    exact setSound_performs word here
  case h_5 byte =>
    rw [devices, dispatch_of_find 0x1E byte rfl]
    exact addIndex_performs word here
  case h_6 byte =>
    rw [devices, dispatch_of_find 0x29 byte rfl]
    exact pointGlyph_performs word here
  case h_7 byte =>
    rw [devices, dispatch_of_find 0x33 byte rfl]
    exact storeDecimal_performs word here
  case h_8 byte =>
    rw [devices, dispatch_of_find 0x55 byte rfl]
    exact storeRegisters_performs word here
  case h_9 byte =>
    rw [devices, dispatch_of_find 0x65 byte rfl]
    exact loadRegisters_performs word here
  case h_10 => simp_all [Follows, devices, dispatch, beq_nn]

theorem arithmetic_follows :
    Follows (arithmetic word) machine word
      ((Arithmetic.ofDigit? word.n).map (.arithmetic · word.x word.y)) := by
  have selected : arithmetic word = arithmeticTable[word.n] word := by
    simp [arithmetic, item]
  rw [selected, arithmeticTable_getElem]
  cases Arithmetic.ofDigit? word.n with
  | none => exact run_unknown word machine
  | some operation => exact combine_performs word here operation

theorem system_follows (bounded : machine.Bounded) :
    Follows (system word) machine word word.systemInstruction? := by
  unfold Word.systemInstruction?
  have low : word.nn.toNat = word.nnn.val % 256 := word.toNat_nn_eq
  have high : word.x.val = word.nnn.val / 256 := word.val_x_eq
  split
  case h_1 address =>
    rw [address] at low high
    rw [system, if_pos high, dispatch_of_find 0xE0 low rfl]
    exact clearScreen_performs word here
  case h_2 address =>
    rw [address] at low high
    rw [system, if_pos high, dispatch_of_find 0xEE low rfl]
    exact ret_performs word bounded
  case h_3 notClear notReturn =>
    rw [system]
    split
    case isFalse => exact run_unknown word machine
    case isTrue zero =>
      have same : word.nn.toNat = word.nnn.val := by
        have small : word.nnn.val / 256 = 0 := high.symm.trans zero
        omega
      have clear : word.nn.toNat ≠ 0xE0 := fun byte => notClear (same.symm.trans byte)
      have returns : word.nn.toNat ≠ 0xEE := fun byte => notReturn (same.symm.trans byte)
      simp [Follows, dispatch, beq_nn, clear, returns]

end Follows

/-- A word goes to the handler of its first digit. -/
theorem handle_of_category
    {word : Word} (category : Nibble) (same : word.category.val = category.val) :
    handle word = categories.get category word := by
  have index : word.bits.toNat / 0x1000 = category.val := by
    have bound : word.bits.toNat < 0x10000 := UInt16.toNat_lt _
    simp only [Word.category, Nibble.val_ofNat] at same
    omega
  simp [handle, item, index, Vector.get]

/-- Every word finds the microprogram of its instruction. -/
theorem handle_follows
    {machine : Machine} (bounded : machine.Bounded) (here : machine.pc.toNat ≤ 0xFFE)
    (word : Word) : Follows (handle word) machine word word.instruction? := by
  unfold Word.instruction?
  split
  case h_1 category =>
    rw [handle_of_category 0 category]
    exact system_follows here word bounded
  case h_2 category =>
    rw [handle_of_category 1 category]
    exact jump_performs word
  case h_3 category =>
    rw [handle_of_category 2 category]
    exact call_performs word
  case h_4 category =>
    rw [handle_of_category 3 category]
    exact compareByte_performs word here rfl
  case h_5 category =>
    rw [handle_of_category 4 category]
    exact compareByte_performs word here rfl
  case h_6 category =>
    rw [handle_of_category 5 category]
    exact compareRegisters_follows here word rfl
  case h_7 category =>
    rw [handle_of_category 6 category]
    exact setByte_performs word here
  case h_8 category =>
    rw [handle_of_category 7 category]
    exact addByte_performs word here
  case h_9 category =>
    rw [handle_of_category 8 category]
    exact arithmetic_follows here word
  case h_10 category =>
    rw [handle_of_category 9 category]
    exact compareRegisters_follows here word rfl
  case h_11 category =>
    rw [handle_of_category 10 category]
    exact pointIndex_performs word here
  case h_12 category =>
    rw [handle_of_category 11 category]
    exact jumpOffset_performs word
  case h_13 category =>
    rw [handle_of_category 12 category]
    exact random_performs word here
  case h_14 category =>
    rw [handle_of_category 13 category]
    exact draw_performs word here
  case h_15 category =>
    rw [handle_of_category 14 category]
    exact keys_follows here word
  case h_16 =>
    have category : word.category.val = 15 := by
      have bound : word.category.val < 16 := Fin.isLt _
      grind
    rw [handle_of_category 15 category]
    exact devices_follows here word

end ChipEight.Micro
