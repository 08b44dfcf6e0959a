import ChipEight.Machine.Action

/-!
# Execution, component by component

What an instruction makes of each component of the machine, as one equation over all instructions.
Facts about runs rest on these equations and never open `execute` again.
-/

namespace ChipEight.Machine

/-! ## Instructions that write registers under a condition -/

/-- A wait that is answered goes on; one that is not stays where it is. -/
theorem execute_waitKey (machine : Machine) (x : Register) :
    machine.execute (.waitKey x) =
      { machine with
        pc := if machine.keypad.first?.isSome then machine.pc + 2 else machine.pc
        registers :=
          match machine.keypad.first? with
          | some key => (machine.setRegister x (UInt8.ofNat key.val)).registers
          | none => machine.registers } := by
  cases found : machine.keypad.first? <;> simp [execute, found, next, advance, setRegister]

theorem execute_arithmetic (machine : Machine) (operation : Arithmetic) (x y : Register) :
    machine.execute (.arithmetic operation x y) =
      { machine with
        pc := machine.pc + 2
        registers := (machine.combine operation x y).registers } := by
  cases operation <;> rfl

theorem execute_loadRegisters (machine : Machine) (x : Register) :
    machine.execute (.loadRegisters x) =
      { machine with
        pc := machine.pc + 2
        index := machine.index + UInt16.ofNat (x.val + 1)
        registers := (machine.fillRegisters x).registers } := by
  simp only [execute, fillRegisters, passIndex, next, advance]

/-! ## The components -/

@[simp]
theorem execute_halted (machine : Machine) (instruction : Instruction) :
    (machine.execute instruction).halted = machine.halted := by
  cases instruction with
  | waitKey x => rw [execute_waitKey]
  | arithmetic operation x y => rw [execute_arithmetic]
  | loadRegisters x => rw [execute_loadRegisters]
  | _ => rfl

@[simp]
theorem execute_keypad (machine : Machine) (instruction : Instruction) :
    (machine.execute instruction).keypad = machine.keypad := by
  cases instruction with
  | waitKey x => rw [execute_waitKey]
  | arithmetic operation x y => rw [execute_arithmetic]
  | loadRegisters x => rw [execute_loadRegisters]
  | _ => rfl

/-- Only a random byte moves the random source on. -/
theorem execute_random (machine : Machine) (instruction : Instruction) :
    (machine.execute instruction).random =
      match instruction with
      | .random _ _ => machine.random.rest
      | _ => machine.random := by
  cases instruction with
  | waitKey x => rw [execute_waitKey]
  | arithmetic operation x y => rw [execute_arithmetic]
  | loadRegisters x => rw [execute_loadRegisters]
  | _ => rfl

theorem execute_delay (machine : Machine) (instruction : Instruction) :
    (machine.execute instruction).delay =
      match instruction with
      | .setDelay x => machine.registers.get x
      | _ => machine.delay := by
  cases instruction with
  | waitKey x => rw [execute_waitKey]
  | arithmetic operation x y => rw [execute_arithmetic]
  | loadRegisters x => rw [execute_loadRegisters]
  | _ => rfl

theorem execute_sound (machine : Machine) (instruction : Instruction) :
    (machine.execute instruction).sound =
      match instruction with
      | .setSound x => machine.registers.get x
      | _ => machine.sound := by
  cases instruction with
  | waitKey x => rw [execute_waitKey]
  | arithmetic operation x y => rw [execute_arithmetic]
  | loadRegisters x => rw [execute_loadRegisters]
  | _ => rfl

/-- Only a call and a return touch the stack. -/
theorem execute_stack (machine : Machine) (instruction : Instruction) :
    (machine.execute instruction).stack =
      match instruction with
      | .ret => machine.stack.pop
      | .call _ => machine.stack.push machine.pc
      | _ => machine.stack := by
  cases instruction with
  | waitKey x => rw [execute_waitKey]
  | arithmetic operation x y => rw [execute_arithmetic]
  | loadRegisters x => rw [execute_loadRegisters]
  | _ => rfl

/-- Only two instructions touch the screen, and both ask for its frame to be shown. -/
theorem execute_screen (machine : Machine) (instruction : Instruction) :
    (machine.execute instruction).screen =
      match instruction with
      | .clearScreen => machine.screen.clear
      | .draw x y height =>
          machine.screen.draw (machine.registers.get x).toNat (machine.registers.get y).toNat
            (machine.memory.slice machine.index.toNat height.val)
      | _ => machine.screen := by
  cases instruction with
  | waitKey x => rw [execute_waitKey]
  | arithmetic operation x y => rw [execute_arithmetic]
  | loadRegisters x => rw [execute_loadRegisters]
  | _ => rfl

/-- Two instructions write memory, both from the index on. -/
theorem execute_memory (machine : Machine) (instruction : Instruction) :
    (machine.execute instruction).memory =
      match instruction with
      | .storeDecimal x =>
          machine.memory.writeAll machine.index.toNat (decimalDigits (machine.registers.get x))
      | .storeRegisters x =>
          machine.memory.writeAll machine.index.toNat (machine.registersUpTo x)
      | _ => machine.memory := by
  cases instruction with
  | waitKey x => rw [execute_waitKey]
  | arithmetic operation x y => rw [execute_arithmetic]
  | loadRegisters x => rw [execute_loadRegisters]
  | _ => rfl

/-- Three instructions point the index somewhere and two move it past a transfer. -/
theorem execute_index (machine : Machine) (instruction : Instruction) :
    (machine.execute instruction).index =
      match instruction with
      | .setIndex target => target.toUInt16
      | .addIndex x =>
          UInt16.ofNat ((machine.index.toNat + (machine.registers.get x).toNat) % Memory.size)
      | .pointGlyph x => Memory.glyphAddress (Nibble.ofNat (machine.registers.get x).toNat)
      | .storeRegisters x | .loadRegisters x => machine.index + UInt16.ofNat (x.val + 1)
      | _ => machine.index := by
  cases instruction with
  | waitKey x => rw [execute_waitKey]
  | arithmetic operation x y => rw [execute_arithmetic]
  | loadRegisters x => rw [execute_loadRegisters]
  | _ => rfl

/-- The instructions that write registers, and what they leave there. -/
theorem execute_registers (machine : Machine) (instruction : Instruction) :
    (machine.execute instruction).registers =
      match instruction with
      | .setByte x byte => (machine.setRegister x byte).registers
      | .addByte x byte => (machine.setRegister x (machine.registers.get x + byte)).registers
      | .arithmetic operation x y => (machine.combine operation x y).registers
      | .random x mask => (machine.setRegister x (machine.random.next &&& mask)).registers
      | .draw x y height => (machine.drawSprite x y height).registers
      | .readDelay x => (machine.setRegister x machine.delay).registers
      | .waitKey x =>
          match machine.keypad.first? with
          | some key => (machine.setRegister x (UInt8.ofNat key.val)).registers
          | none => machine.registers
      | .addIndex x => (machine.moveIndex x).registers
      | .loadRegisters x => (machine.fillRegisters x).registers
      | _ => machine.registers := by
  cases instruction with
  | waitKey x => rw [execute_waitKey]
  | arithmetic operation x y => rw [execute_arithmetic]
  | loadRegisters x => rw [execute_loadRegisters]
  | _ => rfl

/-- Every instruction but the jumps, the skips and an unanswered wait moves on by one word. -/
theorem execute_pc (machine : Machine) (instruction : Instruction) :
    (machine.execute instruction).pc =
      match instruction with
      | .ret => machine.stack.top + 2
      | .jump target | .call target => target.toUInt16
      | .skipIf condition => machine.pc + if machine.holds condition then 4 else 2
      | .jumpOffset base => base.toUInt16 + (machine.registers.get 0).toUInt16
      | .waitKey _ => if machine.keypad.first?.isSome then machine.pc + 2 else machine.pc
      | _ => machine.pc + 2 := by
  cases instruction with
  | waitKey x => rw [execute_waitKey]
  | arithmetic operation x y => rw [execute_arithmetic]
  | loadRegisters x => rw [execute_loadRegisters]
  | _ => rfl

end ChipEight.Machine
