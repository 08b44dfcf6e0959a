import ChipEight.Proofs.Microcode.Instructions

/-!
# The microprograms of the actions

A cycle fetches a word, runs its microprogram and counts the timers down.  A step runs a cycle
unless the machine is halted, and halts the machine if the cycle stops with a fault.  A reset and a
load write one component after the other.

On a machine within the bounds the microprogram of every action comes to the same result and the
same machine as the action itself.
-/

namespace ChipEight.Micro

/-! ## Steps -/

/-- The word at the program counter; the lookups fail outside memory, which is a fault. -/
def fetch : Micro Word := do
  let machine ← get
  let pc := machine.pc.toNat
  match machine.memory.bytes[pc]?, machine.memory.bytes[pc + 1]? with
  | some high, some low => pure (Word.ofBytes high low)
  | _, _ => fail (.fetchOutside machine.pc)

def cycle : Micro Unit := do
  handle (← fetch)
  modify Machine.tick

/-- A cycle, after whose fault the machine is halted as the cycle left it. -/
def step : Micro Unit := fun machine =>
  if machine.halted then .error (.fault .halted) machine
  else
    match cycle.run machine with
    | .error (.fault fault) later => .error (.fault fault) { later with halted := true }
    | outcome => outcome

theorem run_fetch (machine : Machine) :
    fetch.run machine =
      match machine.fetch? with
      | some word => .ok word machine
      | none => .error (.fault (.fetchOutside machine.pc)) machine := by
  by_cases inside : machine.pc.toNat + 1 < Memory.size
  · have before : machine.pc.toNat < Memory.size := Nat.lt_of_succ_lt inside
    simp only [Memory.size] at inside before
    simp [fetch, Machine.fetch?, inside, before, Memory.read]
  · cases first : machine.memory.bytes[machine.pc.toNat]? with
    | none => simp [fetch, Machine.fetch?, inside, first]
    | some high => simp [fetch, Machine.fetch?, inside, first]

/-- A cycle carries out the instruction that comes next, or fails as it does and changes nothing. -/
theorem run_cycle {machine : Machine} (bounded : machine.Bounded) :
    cycle.run machine =
      match machine.upcoming with
      | .ok instruction => .ok () (machine.execute instruction).tick
      | .error fault => .error (.fault fault) machine := by
  cases fetched : machine.fetch? with
  | none => simp [cycle, run_fetch, fetched, Machine.upcoming]
  | some word =>
      have here : machine.pc.toNat ≤ 0xFFE :=
        ((Machine.fetch?_eq_some_iff machine word).mp fetched).1
      have follows := handle_follows bounded here word
      cases decoded : word.instruction? with
      | none =>
          rw [decoded] at follows
          have refused : (handle word).run machine =
            .error (.fault (.unknownWord word machine.pc)) machine := follows
          simp [cycle, run_fetch, fetched, refused, Machine.upcoming, decoded]
      | some instruction =>
          rw [decoded] at follows
          have performs : Performs (handle word) machine instruction := follows
          rw [Performs] at performs
          cases fault : machine.fault? instruction with
          | none => simp [cycle, run_fetch, fetched, performs, Machine.upcoming, decoded, fault]
          | some found =>
              simp [cycle, run_fetch, fetched, performs, Machine.upcoming, decoded, fault]

/-- The checked step comes to the same as the step. It handles the failure of its cycle itself,
which no lemma of the single operations covers. -/
theorem run_step {machine : Machine} (bounded : machine.Bounded) :
    step.run machine =
      match machine.step.result with
      | .ok () => .ok () machine.step.machine
      | .error fault => .error (.fault fault) machine.step.machine := by
  have opened : step.run machine =
      if machine.halted then .error (.fault .halted) machine
      else
        match cycle.run machine with
        | .error (.fault fault) later => .error (.fault fault) { later with halted := true }
        | outcome => outcome := by
    rfl
  rw [opened, run_cycle bounded]
  cases halted : machine.halted with
  | true => simp [Machine.step, halted]
  | false =>
      cases upcoming : machine.upcoming with
      | ok instruction => simp [Machine.step, halted, upcoming]
      | error fault => simp [Machine.step, halted, upcoming]

/-! ## The other actions -/

def reset : Micro Unit := do
  goto (UInt16.ofNat Memory.programStart)
  setDepth 0
  modify fun machine => { machine with delay := 0 }
  modify fun machine => { machine with sound := 0 }
  setIndex 0
  modify fun machine => { machine with registers := Vector.replicate 16 0 }
  modify fun machine => { machine with memory := ⟨Vector.replicate 4096 0⟩ }
  modify fun machine =>
    { machine with stack := ⟨Vector.replicate 16 0, machine.stack.depth⟩ }
  writeRange 0 Memory.font.length Memory.font
  modify fun machine => { machine with screen := Screen.dark }
  modify fun machine => { machine with screen := machine.screen.requestRedraw }
  modify fun machine => { machine with keypad := Keypad.released }
  modify fun machine => { machine with halted := false }

def load (program : Array UInt8) : Micro Unit := do
  if Memory.programCapacity < program.size then fail (.programTooLarge program.size)
  else
    reset
    writeRange Memory.programStart program.size program.toList

def setKey (index : Nat) (down : Bool) : Micro Unit := do
  let keys ← replace (← get).keypad.keys index down
  modify fun machine => { machine with keypad := ⟨keys⟩ }

def changeKeys : Keypad.Change → Micro Unit
  | .press key => setKey (key &&& 0xF).toNat true
  | .release key => setKey (key &&& 0xF).toNat false
  | .set key down => setKey (key &&& 0xF).toNat down
  | .assign key down => setKey key.val down
  | .clear => modify fun machine => { machine with keypad := Keypad.released }
  | .replace bits => modify fun machine => { machine with keypad := Keypad.ofMask bits }

def perform : Machine.Action → Micro Unit
  | .load program => load program
  | .reset => reset
  | .step => step
  | .key change => changeKeys change
  | .takeRedraw => modify fun machine => { machine with screen := machine.screen.takeRedraw }

/-! ## Agreement of the other actions -/

theorem read_zero (address : Nat) :
    (⟨Vector.replicate 4096 0⟩ : Memory).read address = 0 := by
  by_cases inside : address < 4096 <;> simp [Memory.read, inside]

/-- Memory after a load is zero except for the font and then the program. -/
theorem image_eq_writeAll (program : Array UInt8) :
    Memory.image program =
      ((⟨Vector.replicate 4096 0⟩ : Memory).writeAll 0 Memory.font).writeAll Memory.programStart
        program.toList := by
  refine Memory.ext_read fun address inside => ?_
  have font : Memory.font.length = 80 := rfl
  rw [Memory.read_image, Memory.read_writeAll, Memory.read_writeAll, read_zero]
  by_cases low : address < Memory.programStart
  · have before : ¬ Memory.programStart ≤ address := Nat.not_le.mpr low
    by_cases glyphs : address < 80
    · simp [low, before, font, glyphs, inside]
    · simp [low, before, font, glyphs]
  · have after : Memory.programStart ≤ address := Nat.not_lt.mp low
    have beyond : ¬ address < 80 := by
      simp only [Memory.programStart] at after
      omega
    by_cases within : address < Memory.programStart + program.size
    · simp [low, after, within, inside]
    · have missing : program[address - Memory.programStart]? = none := by
        rw [Array.getElem?_eq_none_iff]
        omega
      simp [low, within, inside, font, beyond, missing]

/-- A memory without a program is zeros with the font written over them. -/
theorem image_empty :
    Memory.image #[] = (⟨Vector.replicate 4096 0⟩ : Memory).writeAll 0 Memory.font := by
  have image := image_eq_writeAll #[]
  rwa [Memory.writeAll] at image

theorem run_reset (machine : Machine) :
    reset.run machine = .ok () (Machine.start #[] machine.random) := by
  have font : 0 + Memory.font.length ≤ Memory.size := by decide
  simp [reset, run_setDepth, run_writeRange font, Machine.start, image_empty, CallStack.empty]

theorem run_load (program : Array UInt8) (machine : Machine) :
    (load program).run machine =
      if Memory.programCapacity < program.size then
        .error (.fault (.programTooLarge program.size)) machine
      else .ok () (Machine.start program machine.random) := by
  by_cases large : Memory.programCapacity < program.size
  · simp [load, large]
  · have inside : Memory.programStart + program.size ≤ Memory.size := by
      simp only [Memory.programCapacity, Memory.programStart, Memory.size] at large ⊢
      omega
    have bytes : (Memory.image #[]).writeAll Memory.programStart program.toList =
        Memory.image program := by
      rw [image_eq_writeAll program, image_empty]
    simp [load, large, run_reset, run_writeRange inside, Machine.start, bytes]

theorem run_setKey (key : Key) (down : Bool) (machine : Machine) :
    (setKey key.val down).run machine =
      .ok () { machine with keypad := machine.keypad.assign key down } := by
  simp [setKey, Keypad.assign]

theorem run_changeKeys (change : Keypad.Change) (machine : Machine) :
    (changeKeys change).run machine =
      .ok () { machine with keypad := machine.keypad.apply change } := by
  cases change with
  | press key =>
      rw [changeKeys, toNat_and_low]
      exact run_setKey (Key.ofByte key) true machine
  | release key =>
      rw [changeKeys, toNat_and_low]
      exact run_setKey (Key.ofByte key) false machine
  | set key down =>
      rw [changeKeys, toNat_and_low]
      exact run_setKey (Key.ofByte key) down machine
  | assign key down => exact run_setKey key down machine
  | clear => rfl
  | replace bits => rfl

/-- The microprogram of an action comes to the result and the machine of the action. -/
theorem run_perform {machine : Machine} (bounded : machine.Bounded) (action : Machine.Action) :
    (perform action).run machine =
      match (machine.perform action).result with
      | .ok () => .ok () (machine.perform action).machine
      | .error fault => .error (.fault fault) (machine.perform action).machine := by
  cases action with
  | load program =>
      by_cases large : Memory.programCapacity < program.size
      · simp [perform, run_load, large, Machine.perform, Machine.load]
      · simp [perform, run_load, large, Machine.perform, Machine.load]
  | reset => exact run_reset machine
  | step => exact run_step bounded
  | key change => exact run_changeKeys change machine
  | takeRedraw => rfl

end ChipEight.Micro
