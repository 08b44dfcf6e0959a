import ChipEight.Proofs.Drawing
import ChipEight.Proofs.Microcode.Actions
import Mathlib.Control.Monad.Basic

/-!
# What a step leaves alone

The footprint of a step: for each component of the machine, the words on which a successful step may
change it, and how far.  What an instruction makes of a component is already said by one equation
each.  An instruction is traced back to the pattern of its word, so that an equation turns into a
condition on words.
-/

namespace ChipEight

/-! ## Sets of patterns -/

namespace Word

variable {word : Word} {instruction : Instruction}

/-- Some of the patterns fits the word. -/
def MatchesAny (word : Word) (patterns : List String) : Prop :=
  ∃ pattern ∈ patterns, word.Matches pattern

instance (word : Word) (patterns : List String) : Decidable (word.MatchesAny patterns) :=
  inferInstanceAs (Decidable (∃ pattern ∈ patterns, word.Matches pattern))

end Word

namespace Machine

/-- The action is a successful step on a word of the pattern. -/
def Executes (pattern : String) (machine : Machine) : Action → Prop
  | .step => machine.step.result = .ok () ∧ ∃ word ∈ machine.fetch?, word.Matches pattern
  | _ => False

instance (pattern : String) (machine : Machine) :
    (action : Action) → Decidable (Executes pattern machine action)
  | .step => inferInstanceAs (Decidable (machine.step.result = .ok () ∧
      ∃ word ∈ machine.fetch?, word.Matches pattern))
  | .load _ | .reset | .key _ | .takeRedraw => inferInstanceAs (Decidable False)

/-- A successful step carries out the word that it fetches, and no other. -/
theorem executes_step_iff
    {machine : Machine} {word : Word} (succeeded : machine.step.result = .ok ())
    (fetched : machine.fetch? = some word) (pattern : String) :
    machine.Executes pattern .step ↔ word.Matches pattern := by
  constructor
  · rintro ⟨_, same, fetchedSame, fits⟩
    cases fetched.symm.trans fetchedSame
    exact fits
  · intro fits
    exact ⟨succeeded, word, fetched, fits⟩

/-! ## Registers -/

/-- The registers that a successful step on the word may change. -/
def Alters (machine : Machine) (word : Word) (register : Register) : Prop :=
  if word.MatchesAny ["0nnn", "1nnn", "2nnn", "3nnn", "4nnn", "5nnn", "9nnn", "Annn", "Bnnn",
      "Ennn", "Fx15", "Fx18", "Fx29", "Fx33", "Fx55"] then False
  else if word.Matches "Fx0A" ∧ ∀ key, machine.keypad.isDown key = false then False
  else if word.MatchesAny ["Dxyn", "Fx1E"] then register = flagRegister
  else if word.Matches "Fx65" then register ≤ word.x
  else if word.MatchesAny ["8xy4", "8xy5", "8xy6", "8xy7", "8xyE"] then
    register = word.x ∨ register = flagRegister
  else register = word.x

/-- The registers that an instruction writes. -/
def Writes (machine : Machine) : Instruction → Register → Prop
  | .setByte x _, register | .addByte x _, register | .random x _, register
  | .readDelay x, register => register = x
  | .arithmetic operation x y, register =>
      register = x ∨
        ((operation.flag? (machine.registers.get x) (machine.registers.get y)).isSome = true ∧
          register = flagRegister)
  | .draw _ _ _, register | .addIndex _, register => register = flagRegister
  | .waitKey x, register => machine.keypad.first?.isSome = true ∧ register = x
  | .loadRegisters x, register => register ≤ x
  | _, _ => False

theorem first?_isSome_iff (keypad : Keypad) :
    keypad.first?.isSome = true ↔ ¬ ∀ key, keypad.isDown key = false := by
  simp [Keypad.first?]

/-- The registers that a word may change are those that its instruction writes. The digits that a
row of the table fixes decide which of the patterns fit, so this is shown row by row. -/
theorem alters_iff_writes
    {word : Word} {instruction : Instruction} (decoded : word.instruction? = some instruction)
    (machine : Machine) (register : Register) :
    machine.Alters word register ↔ machine.Writes instruction register := by
  rcases Word.listed_of_instruction? decoded with ⟨encoding, member, fits, rfl⟩
  clear decoded
  revert encoding
  simp +contextual [-Fin.val_eq_zero_iff, encodings, systemEncodings, plainEncodings,
    arithmeticEncodings, keyEncodings, deviceEncodings, Alters, Writes, Word.MatchesAny,
    Word.Matches, Word.digits, Fits, placeDigit?, first?_isSome_iff, Arithmetic.flag?]

theorem get_setRegister_self (machine : Machine) (x : Register) (byte : UInt8) :
    (machine.setRegister x byte).registers.get x = byte := by
  simp [setRegister]

theorem get_setRegister_of_ne
    {register x : Register} (other : register ≠ x) (machine : Machine) (byte : UInt8) :
    (machine.setRegister x byte).registers.get register = machine.registers.get register := by
  have apart : x.val ≠ register.val := fun same => other (Fin.ext same.symm)
  simp [setRegister, apart]

/-- A register that the instruction does not write stays as it is. -/
theorem registers_execute_of_not_writes
    {machine : Machine} {instruction : Instruction} {register : Register}
    (other : ¬ machine.Writes instruction register) :
    (machine.execute instruction).registers.get register = machine.registers.get register := by
  rw [execute_registers]
  cases instruction with
  | setByte x byte => exact get_setRegister_of_ne other _ _
  | addByte x byte => exact get_setRegister_of_ne other _ _
  | random x mask => exact get_setRegister_of_ne other _ _
  | readDelay x => exact get_setRegister_of_ne other _ _
  | draw x y height => exact get_setRegister_of_ne other _ _
  | addIndex x => exact get_setRegister_of_ne other _ _
  | arithmetic operation x y =>
      rcases not_or.mp other with ⟨notResult, notFlag⟩
      simp only [combine]
      cases flag : operation.flag? (machine.registers.get x) (machine.registers.get y) with
      | none => exact get_setRegister_of_ne notResult _ _
      | some value =>
          have apart : register ≠ flagRegister := fun same => notFlag ⟨by rw [flag]; rfl, same⟩
          exact (get_setRegister_of_ne apart _ _).trans (get_setRegister_of_ne notResult _ _)
  | waitKey x =>
      cases found : machine.keypad.first? with
      | none => rfl
      | some key => exact get_setRegister_of_ne (fun same => other ⟨by rw [found]; rfl, same⟩) _ _
  | loadRegisters x =>
      have above : ¬ register ≤ x := other
      show (machine.fillRegisters x).registers.get register = _
      simp [fillRegisters, above]
  | _ => rfl

/-! ## The other components -/

/-- The addresses that a successful step on the word writes. -/
def Stores (machine : Machine) (word : Word) (address : Nat) : Prop :=
  (word.Matches "Fx33" ∧ machine.index.toNat ≤ address ∧ address < machine.index.toNat + 3) ∨
    (word.Matches "Fx55" ∧ machine.index.toNat ≤ address ∧
      address < machine.index.toNat + word.x.val + 1)

instance (machine : Machine) (word : Word) (address : Nat) :
    Decidable (machine.Stores word address) :=
  inferInstanceAs (Decidable (
    (word.Matches "Fx33" ∧ machine.index.toNat ≤ address ∧ address < machine.index.toNat + 3) ∨
      (word.Matches "Fx55" ∧ machine.index.toNat ≤ address ∧
        address < machine.index.toNat + word.x.val + 1)))

section Components

variable {machine : Machine} {word : Word} {instruction : Instruction}

/-- Bytes of memory change only where the word says that it stores. -/
theorem read_execute_of_not_stores
    (decoded : word.instruction? = some instruction) {address : Nat}
    (outside : ¬ machine.Stores word address) :
    (machine.execute instruction).memory.read address = machine.memory.read address := by
  have fits := Word.matches_pattern decoded
  have operands := Word.operandsFrom_of_instruction? decoded
  rw [execute_memory]
  cases instruction with
  | storeDecimal x =>
      have length : (decimalDigits (machine.registers.get x)).length = 3 := rfl
      simp only
      rw [Memory.read_writeAll, length, if_neg]
      rintro ⟨start, reach, _⟩
      exact outside (Or.inl ⟨fits, start, reach⟩)
  | storeRegisters x =>
      cases operands
      simp only
      rw [Memory.read_writeAll, Micro.length_registersUpTo, if_neg]
      rintro ⟨start, reach, _⟩
      exact outside (Or.inr ⟨fits, start, reach⟩)
  | _ => rfl

theorem stack_execute_of_not_matches
    (decoded : word.instruction? = some instruction) (notCall : ¬ word.Matches "2nnn")
    (notReturn : ¬ word.Matches "00EE") :
    (machine.execute instruction).stack = machine.stack := by
  have fits := Word.matches_pattern decoded
  rw [execute_stack]
  cases instruction with
  | ret => exact absurd fits notReturn
  | call target => exact absurd fits notCall
  | _ => rfl

/-- A call writes the slot above the entries. -/
theorem slots_execute_of_call
    (decoded : word.instruction? = some instruction) (call : word.Matches "2nnn")
    {slot : Fin 16} (other : slot.val ≠ machine.stack.depth) :
    (machine.execute instruction).stack.slots.get slot = machine.stack.slots.get slot := by
  rw [(word.matches_iff "2nnn" (.call word.nnn)).mp call] at decoded
  cases decoded
  have apart : machine.stack.depth ≠ slot.val := fun same => other same.symm
  rw [execute_stack]
  simp [CallStack.push, Vector.getElem_setIfInBounds_ne, apart]

theorem slots_execute_of_ret
    (decoded : word.instruction? = some instruction) (returns : word.Matches "00EE") :
    (machine.execute instruction).stack.slots = machine.stack.slots := by
  rw [(word.matches_iff "00EE" .ret).mp returns] at decoded
  cases decoded
  rw [execute_stack]
  rfl

theorem screen_execute_of_not_matches
    (decoded : word.instruction? = some instruction) (notClear : ¬ word.Matches "00E0")
    (notDraw : ¬ word.Matches "Dxyn") :
    (machine.execute instruction).screen = machine.screen := by
  have fits := Word.matches_pattern decoded
  rw [execute_screen]
  cases instruction with
  | clearScreen => exact absurd fits notClear
  | draw x y height => exact absurd fits notDraw
  | _ => rfl

theorem random_execute_of_not_matches
    (decoded : word.instruction? = some instruction) (other : ¬ word.Matches "Cxnn") :
    (machine.execute instruction).random = machine.random := by
  have fits := Word.matches_pattern decoded
  rw [execute_random]
  cases instruction with
  | random x mask => exact absurd fits other
  | _ => rfl

theorem index_execute_of_not_matches
    (decoded : word.instruction? = some instruction)
    (other : ¬ word.MatchesAny ["Annn", "Fx1E", "Fx29", "Fx55", "Fx65"]) :
    (machine.execute instruction).index = machine.index := by
  have fits := Word.matches_pattern decoded
  rw [execute_index]
  cases instruction with
  | setIndex target => exact absurd ⟨_, by simp [Instruction.pattern], fits⟩ other
  | addIndex x => exact absurd ⟨_, by simp [Instruction.pattern], fits⟩ other
  | pointGlyph x => exact absurd ⟨_, by simp [Instruction.pattern], fits⟩ other
  | storeRegisters x => exact absurd ⟨_, by simp [Instruction.pattern], fits⟩ other
  | loadRegisters x => exact absurd ⟨_, by simp [Instruction.pattern], fits⟩ other
  | _ => rfl

theorem delay_execute (decoded : word.instruction? = some instruction) :
    (machine.execute instruction).delay =
      if word.Matches "Fx15" then machine.registers.get word.x else machine.delay := by
  by_cases set : word.Matches "Fx15"
  · rw [(word.matches_iff "Fx15" (.setDelay word.x)).mp set] at decoded
    cases decoded
    rw [execute_delay, if_pos set]
  · have fits := Word.matches_pattern decoded
    rw [execute_delay, if_neg set]
    cases instruction with
    | setDelay x => exact absurd fits set
    | _ => rfl

theorem sound_execute (decoded : word.instruction? = some instruction) :
    (machine.execute instruction).sound =
      if word.Matches "Fx18" then machine.registers.get word.x else machine.sound := by
  by_cases set : word.Matches "Fx18"
  · rw [(word.matches_iff "Fx18" (.setSound word.x)).mp set] at decoded
    cases decoded
    rw [execute_sound, if_pos set]
  · have fits := Word.matches_pattern decoded
    rw [execute_sound, if_neg set]
    cases instruction with
    | setSound x => exact absurd fits set
    | _ => rfl

end Components

theorem toNat_countDown (timer : UInt8) : (countDown timer).toNat = timer.toNat - 1 := by
  rw [countDown]
  split
  case isTrue zero => rw [zero]; rfl
  case isFalse running =>
    have one : 1 ≤ timer.toNat := Nat.pos_of_ne_zero fun zero => running (UInt8.toNat_inj.mp zero)
    exact UInt8.toNat_sub_of_le timer 1 (UInt8.le_iff_toNat_le.mpr one)

/-! ## The footprint -/

/-- What a successful step on a word leaves as it was, and what it makes of the timers. -/
structure Footprint (machine : Machine) (word : Word) (later : Machine) : Prop where
  keypad : later.keypad = machine.keypad
  halted : later.halted = machine.halted
  random : ¬ word.Matches "Cxnn" → later.random = machine.random
  memory : ¬ word.Matches "Fx33" → ¬ word.Matches "Fx55" → later.memory = machine.memory
  bytes : ∀ address, ¬ machine.Stores word address →
    later.memory.read address = machine.memory.read address
  stack : ¬ word.Matches "2nnn" → ¬ word.Matches "00EE" → later.stack = machine.stack
  call : word.Matches "2nnn" → ∀ slot : Fin 16, slot.val ≠ machine.stack.depth →
    later.stack.slots.get slot = machine.stack.slots.get slot
  ret : word.Matches "00EE" → later.stack.slots = machine.stack.slots
  screen : ¬ word.Matches "00E0" → ¬ word.Matches "Dxyn" → later.screen = machine.screen
  index : ¬ word.MatchesAny ["Annn", "Fx1E", "Fx29", "Fx55", "Fx65"] →
    later.index = machine.index
  registers : ∀ register, ¬ machine.Alters word register →
    later.registers.get register = machine.registers.get register
  delay : later.delay.toNat =
    (if word.Matches "Fx15" then machine.registers.get word.x else machine.delay).toNat - 1
  sound : later.sound.toNat =
    (if word.Matches "Fx18" then machine.registers.get word.x else machine.sound).toNat - 1

/-- Every instruction stays within the footprint of its word. -/
theorem footprint_execute
    {machine : Machine} {word : Word} {instruction : Instruction}
    (decoded : word.instruction? = some instruction) :
    Footprint machine word (machine.execute instruction).tick where
  keypad := execute_keypad machine instruction
  halted := execute_halted machine instruction
  random := random_execute_of_not_matches decoded
  memory notDecimal notRegisters := by
    refine Memory.ext_read fun address _ => read_execute_of_not_stores decoded ?_
    rintro (⟨fits, _⟩ | ⟨fits, _⟩)
    · exact notDecimal fits
    · exact notRegisters fits
  bytes _ outside := read_execute_of_not_stores decoded outside
  stack := stack_execute_of_not_matches decoded
  call fits _ other := slots_execute_of_call decoded fits other
  ret := slots_execute_of_ret decoded
  screen := screen_execute_of_not_matches decoded
  index := index_execute_of_not_matches decoded
  registers register other :=
    registers_execute_of_not_writes fun writes =>
      other ((alters_iff_writes decoded machine register).mpr writes)
  delay := by rw [← delay_execute decoded]; exact toNat_countDown _
  sound := by rw [← sound_execute decoded]; exact toNat_countDown _

/-- A successful step keeps within the footprint of its word. -/
theorem footprint_step
    {machine : Machine} {word : Word} (succeeded : machine.step.result = .ok ())
    (fetched : machine.fetch? = some word) : Footprint machine word machine.step.machine := by
  rcases carried_of_step_ok succeeded fetched with ⟨instruction, decoded, _, carried⟩
  rw [carried]
  exact footprint_execute decoded

/--
The footprint of every instruction.  When a reachable machine succeeds in a step on a word, the
microprogram of the step, which finds its way through the tables and writes one component after the
other, ends with the machine of the step, and this machine is within the footprint of the word.
-/
theorem step_within_footprint
    {machine : Machine} (reachable : machine.Reachable) {word : Word}
    (fetches : machine.Fetches word) (succeeded : machine.step.result = .ok ()) :
    Micro.step.run machine = .ok () machine.step.machine ∧
      Footprint machine word machine.step.machine := by
  constructor
  · rw [Micro.run_step reachable.bounded, succeeded]
  · exact footprint_step succeeded ((fetches_iff machine word).mp fetches).2

/-- A machine about to store two registers at the end of memory. -/
def storing : Machine :=
  (create (Random.ofSeed 0)).machine.performAll
    [.load #[0xAF, 0xFE, 0x61, 0x07, 0xF1, 0x55], .step, .step]

/-- A store next to the end of memory touches no byte before it, no entry and no other register. -/
theorem step_within_footprint_storing :
    storing.Reachable ∧ storing.step.machine.memory.read 0xFFD = storing.memory.read 0xFFD ∧
      storing.step.machine.stack = storing.stack ∧
      storing.step.machine.registers.get 1 = storing.registers.get 1 := by
  have reachable : storing.Reachable := ⟨_, _, rfl⟩
  have fetches : storing.Fetches ⟨0xF155⟩ := by decide +kernel
  have succeeded : storing.step.result = .ok () := by decide +kernel
  rcases step_within_footprint reachable fetches succeeded with ⟨_, footprint⟩
  have before : ¬ storing.index.toNat ≤ 0xFFD := by decide +kernel
  have outside : ¬ storing.Stores ⟨0xF155⟩ 0xFFD := by
    rintro (⟨_, start, _⟩ | ⟨_, start, _⟩)
    · exact before start
    · exact before start
  have quiet : ¬ storing.Alters ⟨0xF155⟩ 1 := by
    rw [Alters, if_pos (by decide)]
    exact not_false
  exact ⟨reachable, footprint.bytes _ outside, footprint.stack (by decide) (by decide),
    footprint.registers 1 quiet⟩

end Machine

end ChipEight
