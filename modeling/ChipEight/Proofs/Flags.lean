import ChipEight.Proofs.Footprint

/-!
# Arithmetic and its flags

What the words of category 8 and the addition of a byte make of the registers, as equations between
numbers.  An operation that sets a flag loses nothing: its result and its flag together determine
the sum, the difference or the shifted byte.  The flag goes to the flag register after the result,
so it is the flag that stays there if both go to the same register, while the operands are those
before the step in any case.
-/

namespace ChipEight

/-! ## Results and flags -/

namespace Arithmetic

theorem toNat_decide (statement : Prop) [Decidable statement] :
    (decide statement).toNat = if statement then 1 else 0 := by
  by_cases holds : statement <;> simp [holds]

/-- A sum is the byte that is stored and the carry. -/
theorem toNat_add_carry (left right : UInt8) :
    (left + right).toNat + 256 * (decide (0xFF < left.toNat + right.toNat)).toNat =
      left.toNat + right.toNat := by
  have leftBound : left.toNat < 256 := left.toNat_lt
  have rightBound : right.toNat < 256 := right.toNat_lt
  simp only [UInt8.toNat_add, toNat_decide]
  split <;> omega

/-- A difference is the byte that is stored, less 256 if something was borrowed. -/
theorem toNat_sub_borrow (left right : UInt8) :
    ((left - right).toNat : Int) =
      left.toNat - right.toNat + 256 * (1 - (decide (right ≤ left)).toNat) := by
  have leftBound : left.toNat < 256 := left.toNat_lt
  have rightBound : right.toNat < 256 := right.toNat_lt
  simp only [UInt8.toNat_sub, UInt8.le_iff_toNat_le, toNat_decide]
  split <;> omega

/-- Half a byte and the bit that was dropped make the byte. -/
theorem toNat_shiftRight_dropped (byte : UInt8) :
    2 * (byte >>> 1).toNat + (byte.toNat % 2 == 1).toNat = byte.toNat := by
  have half : (byte >>> 1).toNat = byte.toNat / 2 := by
    rw [UInt8.toNat_shiftRight]
    exact Nat.shiftRight_eq_div_pow _ 1
  simp only [half, beq_eq_decide, toNat_decide]
  split <;> omega

/-- Twice a byte is the byte that is stored and the bit that was dropped. -/
theorem toNat_shiftLeft_dropped (byte : UInt8) :
    (byte <<< 1).toNat + 256 * (decide (0x80 ≤ byte)).toNat = 2 * byte.toNat := by
  have bound : byte.toNat < 256 := byte.toNat_lt
  have twice : (byte <<< 1).toNat = byte.toNat * 2 % 256 := by
    rw [UInt8.toNat_shiftLeft]
    exact congrArg (· % 256) (Nat.shiftLeft_eq _ 1)
  have highest : (0x80 : UInt8).toNat = 128 := rfl
  simp only [twice, UInt8.le_iff_toNat_le, highest, toNat_decide]
  split <;> omega

end Arithmetic

/-! ## The words -/

namespace Word

variable {word : Word}

theorem exists_of_matchesAny
    {operations : List Arithmetic} (fits : word.MatchesAny (operations.map Arithmetic.pattern)) :
    ∃ operation ∈ operations, word.Matches operation.pattern := by
  rcases fits with ⟨_, listed, fits⟩
  rcases List.mem_map.mp listed with ⟨operation, member, rfl⟩
  exact ⟨operation, member, fits⟩

end Word

namespace Machine

/-! ## One step -/

section Step

variable {machine : Machine} {word : Word}

theorem toNat_flag_setFlag (machine : Machine) (flag : Bool) :
    ((machine.setFlag flag).registers.get flagRegister).toNat = flag.toNat := by
  rw [setFlag, get_setRegister_self]
  cases flag <;> rfl

/-- An operation with a flag stores its result and then the flag. -/
theorem combine_of_flag
    {operation : Arithmetic} {x y : Register} {raised : Bool}
    (flag : operation.flag? (machine.registers.get x) (machine.registers.get y) = some raised) :
    machine.combine operation x y =
      (machine.setRegister x
        (operation.result (machine.registers.get x) (machine.registers.get y))).setFlag raised := by
  have flag' : operation.flag? machine.registers[x] machine.registers[y] = some raised := flag
  simp only [combine, flag']
  rfl

theorem combine_of_no_flag
    {operation : Arithmetic} {x y : Register}
    (noFlag : operation.flag? (machine.registers.get x) (machine.registers.get y) = none) :
    machine.combine operation x y =
      machine.setRegister x
        (operation.result (machine.registers.get x) (machine.registers.get y)) := by
  have noFlag' : operation.flag? machine.registers[x] machine.registers[y] = none := noFlag
  simp only [combine, noFlag']
  rfl

/-- Each operation succeeds, and nothing but its result and its flag goes to the registers. -/
theorem step_of_arithmetic
    {operation : Arithmetic} (fetches : machine.Fetches word)
    (fits : word.Matches operation.pattern) :
    machine.step.result = .ok () ∧
      machine.step.machine.registers = (machine.combine operation word.x word.y).registers := by
  rcases step_of_fetches fetches
      ((word.matches_iff operation.pattern (.arithmetic operation word.x word.y)).mp fits) rfl with
    ⟨carried, succeeded⟩
  refine ⟨succeeded, ?_⟩
  rw [carried]
  exact execute_registers machine _

/-- An operation with a flag leaves the flag, and the result unless the flag replaces it. -/
theorem step_of_flagged
    (operation : Arithmetic) {raised : Bool} (fetches : machine.Fetches word)
    (fits : word.Matches operation.pattern)
    (flag : operation.flag? (machine.registers.get word.x) (machine.registers.get word.y) =
      some raised) :
    machine.step.result = .ok () ∧
      (machine.step.machine.registers.get flagRegister).toNat = raised.toNat ∧
      (word.x ≠ flagRegister →
        machine.step.machine.registers.get word.x =
          operation.result (machine.registers.get word.x) (machine.registers.get word.y)) ∧
      ∀ register, register ≠ word.x → register ≠ flagRegister →
        machine.step.machine.registers.get register = machine.registers.get register := by
  rcases step_of_arithmetic fetches fits with ⟨succeeded, registers⟩
  rw [registers, combine_of_flag flag]
  refine ⟨succeeded, ?_, fun apart => ?_, fun register notResult notFlag => ?_⟩
  · exact toNat_flag_setFlag _ raised
  · rw [setFlag, get_setRegister_of_ne apart, get_setRegister_self]
  · rw [setFlag, get_setRegister_of_ne notFlag, get_setRegister_of_ne notResult]

/-- An operation without a flag leaves its result and all other registers. -/
theorem step_of_unflagged
    (operation : Arithmetic) (fetches : machine.Fetches word)
    (fits : word.Matches operation.pattern)
    (noFlag : operation.flag? (machine.registers.get word.x) (machine.registers.get word.y) =
      none) :
    machine.step.result = .ok () ∧
      machine.step.machine.registers.get word.x =
        operation.result (machine.registers.get word.x) (machine.registers.get word.y) ∧
      ∀ register, register ≠ word.x →
        machine.step.machine.registers.get register = machine.registers.get register := by
  rcases step_of_arithmetic fetches fits with ⟨succeeded, registers⟩
  rw [registers, combine_of_no_flag noFlag]
  exact ⟨succeeded, get_setRegister_self _ _ _,
    fun register other => get_setRegister_of_ne other _ _⟩

/-- A byte is added without regard to a carry, and no other register changes. -/
theorem step_of_addByte (fetches : machine.Fetches word) (fits : word.Matches "7xnn") :
    machine.step.result = .ok () ∧
      machine.step.machine.registers.get word.x = machine.registers.get word.x + word.nn ∧
      ∀ register, register ≠ word.x →
        machine.step.machine.registers.get register = machine.registers.get register := by
  rcases step_of_fetches fetches
      ((word.matches_iff "7xnn" (.addByte word.x word.nn)).mp fits) rfl with
    ⟨carried, succeeded⟩
  have registers : machine.step.machine.registers =
      (machine.setRegister word.x (machine.registers.get word.x + word.nn)).registers := by
    rw [carried]
    exact execute_registers machine _
  rw [registers]
  exact ⟨succeeded, get_setRegister_self _ _ _,
    fun register other => get_setRegister_of_ne other _ _⟩

/-- The number in a register. -/
abbrev value (machine : Machine) (register : Register) : Nat :=
  (machine.registers.get register).toNat

/-- The flag that a step leaves is raised under the condition under which the operation raises it,
and unless it replaces the result, the two satisfy what they satisfy for the operation. -/
theorem flag_of_flagged
    (operation : Arithmetic) {raised : Bool} {condition : Prop} (equation : Nat → Nat → Prop)
    (fetches : machine.Fetches word) (fits : word.Matches operation.pattern)
    (flag : operation.flag? (machine.registers.get word.x) (machine.registers.get word.y) =
      some raised)
    (raises : raised = true ↔ condition)
    (satisfied : equation
      (operation.result (machine.registers.get word.x) (machine.registers.get word.y)).toNat
      raised.toNat) :
    (machine.step.machine.value flagRegister = 1 ↔ condition) ∧
      (word.x ≠ flagRegister →
        equation (machine.step.machine.value word.x)
          (machine.step.machine.value flagRegister)) := by
  rcases step_of_flagged operation fetches fits flag with ⟨_, set, stored, _⟩
  rw [value, set, Bool.toNat_eq_one]
  refine ⟨raises, fun apart => ?_⟩
  rw [value, stored apart]
  exact satisfied

/-- An addition carries exactly if the sum is no byte. -/
theorem flag_of_add (fetches : machine.Fetches word) (fits : word.Matches "8xy4") :
    (machine.step.machine.value flagRegister = 1 ↔
        255 < machine.value word.x + machine.value word.y) ∧
      (word.x ≠ flagRegister →
        machine.step.machine.value word.x + 256 * machine.step.machine.value flagRegister =
          machine.value word.x + machine.value word.y) :=
  flag_of_flagged .add (fun result flag => result + 256 * flag = _) fetches fits rfl
    decide_eq_true_iff (Arithmetic.toNat_add_carry _ _)

/-- A subtraction raises the flag exactly if nothing is borrowed. -/
theorem flag_of_subtract (fetches : machine.Fetches word) (fits : word.Matches "8xy5") :
    (machine.step.machine.value flagRegister = 1 ↔
        machine.value word.y ≤ machine.value word.x) ∧
      (word.x ≠ flagRegister →
        (machine.step.machine.value word.x : Int) =
          machine.value word.x - machine.value word.y +
            256 * (1 - machine.step.machine.value flagRegister)) :=
  flag_of_flagged .subtract (fun result flag => (result : Int) = _ + 256 * (1 - flag)) fetches fits
    rfl (decide_eq_true_iff.trans UInt8.le_iff_toNat_le) (Arithmetic.toNat_sub_borrow _ _)

/-- A subtraction the other way round raises the flag exactly if nothing is borrowed. -/
theorem flag_of_subtractFrom (fetches : machine.Fetches word) (fits : word.Matches "8xy7") :
    (machine.step.machine.value flagRegister = 1 ↔
        machine.value word.x ≤ machine.value word.y) ∧
      (word.x ≠ flagRegister →
        (machine.step.machine.value word.x : Int) =
          machine.value word.y - machine.value word.x +
            256 * (1 - machine.step.machine.value flagRegister)) :=
  flag_of_flagged .subtractFrom (fun result flag => (result : Int) = _ + 256 * (1 - flag)) fetches
    fits rfl (decide_eq_true_iff.trans UInt8.le_iff_toNat_le) (Arithmetic.toNat_sub_borrow _ _)

/-- A shift to the right raises the flag exactly if the lowest bit is set. -/
theorem flag_of_shiftRight (fetches : machine.Fetches word) (fits : word.Matches "8xy6") :
    (machine.step.machine.value flagRegister = 1 ↔ machine.value word.x % 2 = 1) ∧
      (word.x ≠ flagRegister →
        2 * machine.step.machine.value word.x + machine.step.machine.value flagRegister =
          machine.value word.x) :=
  flag_of_flagged .shiftRight (fun result flag => 2 * result + flag = _) fetches fits rfl
    beq_iff_eq (Arithmetic.toNat_shiftRight_dropped _)

/-- A shift to the left raises the flag exactly if the highest bit is set. -/
theorem flag_of_shiftLeft (fetches : machine.Fetches word) (fits : word.Matches "8xyE") :
    (machine.step.machine.value flagRegister = 1 ↔ 128 ≤ machine.value word.x) ∧
      (word.x ≠ flagRegister →
        machine.step.machine.value word.x + 256 * machine.step.machine.value flagRegister =
          2 * machine.value word.x) :=
  flag_of_flagged .shiftLeft (fun result flag => result + 256 * flag = _) fetches fits rfl
    (decide_eq_true_iff.trans UInt8.le_iff_toNat_le) (Arithmetic.toNat_shiftLeft_dropped _)

/-- An operation with a flag succeeds, the flag is a bit, and all other registers stay. -/
theorem step_of_anyFlagged
    (fetches : machine.Fetches word)
    (fits : word.MatchesAny ["8xy4", "8xy5", "8xy6", "8xy7", "8xyE"]) :
    machine.step.result = .ok () ∧
      (machine.step.machine.value flagRegister = 0 ∨
        machine.step.machine.value flagRegister = 1) ∧
      ∀ register, register ≠ word.x → register ≠ flagRegister →
        machine.step.machine.registers.get register = machine.registers.get register := by
  replace fits : word.MatchesAny
    ([.add, .subtract, .shiftRight, .subtractFrom, .shiftLeft].map Arithmetic.pattern) := fits
  rcases Word.exists_of_matchesAny fits with ⟨operation, member, fitsOperation⟩
  have flagged : (operation.flag? (machine.registers.get word.x)
      (machine.registers.get word.y)).isSome = true := by
    simp only [List.mem_cons, List.not_mem_nil, or_false] at member
    rcases member with rfl | rfl | rfl | rfl | rfl <;> rfl
  rcases Option.isSome_iff_exists.mp flagged with ⟨raised, sets⟩
  rcases step_of_flagged operation fetches fitsOperation sets with ⟨succeeded, set, _, others⟩
  refine ⟨succeeded, ?_, others⟩
  rw [value, set]
  cases raised with
  | false => exact Or.inl rfl
  | true => exact Or.inr rfl

/-- An operation without a flag succeeds, and all registers but that of its result stay. -/
theorem step_of_anyUnflagged
    (fetches : machine.Fetches word)
    (fits : word.MatchesAny ["8xy0", "8xy1", "8xy2", "8xy3"]) :
    machine.step.result = .ok () ∧
      ∀ register, register ≠ word.x →
        machine.step.machine.registers.get register = machine.registers.get register := by
  replace fits : word.MatchesAny ([.copy, .or, .and, .xor].map Arithmetic.pattern) := fits
  rcases Word.exists_of_matchesAny fits with ⟨operation, member, fitsOperation⟩
  have noFlag : operation.flag? (machine.registers.get word.x) (machine.registers.get word.y) =
      none := by
    simp only [List.mem_cons, List.not_mem_nil, or_false] at member
    rcases member with rfl | rfl | rfl | rfl <;> rfl
  rcases step_of_unflagged operation fetches fitsOperation noFlag with ⟨succeeded, _, others⟩
  exact ⟨succeeded, others⟩

/-- The number that an operation without a flag leaves is that of its result. -/
theorem value_of_unflagged
    (operation : Arithmetic) (fetches : machine.Fetches word)
    (fits : word.Matches operation.pattern)
    (noFlag : operation.flag? (machine.registers.get word.x) (machine.registers.get word.y) =
      none) :
    machine.step.machine.value word.x =
      (operation.result (machine.registers.get word.x) (machine.registers.get word.y)).toNat :=
  congrArg UInt8.toNat (step_of_unflagged operation fetches fits noFlag).2.1

end Step

/--
Arithmetic on registers, with the operands from before the step and the numbers after it, whichever
registers the word names.  Each operation succeeds.  The flag of an operation that has one is 0 or
1, and 1 exactly if the sum is no byte, nothing is borrowed, or the dropped bit is set, also if the
result would go to the same register.  If it goes to another one, the flag makes up for what the
result lacks.  All registers but these two stay, and the operations without a flag change one only.
-/
theorem step_arithmetic
    {machine : Machine} {word : Word} (fetches : machine.Fetches word) :
    let left := (machine.registers.get word.x).toNat
    let right := (machine.registers.get word.y).toNat
    let later := machine.step.machine
    let result := (later.registers.get word.x).toNat
    let flag := (later.registers.get flagRegister).toNat
    (word.MatchesAny ["8xy4", "8xy5", "8xy6", "8xy7", "8xyE"] →
        machine.step.result = .ok () ∧ (flag = 0 ∨ flag = 1) ∧ result ≤ 255 ∧
          ∀ register, register ≠ word.x → register ≠ flagRegister →
            later.registers.get register = machine.registers.get register) ∧
      (word.Matches "8xy4" → (flag = 1 ↔ 255 < left + right) ∧
        (word.x ≠ flagRegister → result + 256 * flag = left + right)) ∧
      (word.Matches "8xy5" → (flag = 1 ↔ right ≤ left) ∧
        (word.x ≠ flagRegister → (result : Int) = left - right + 256 * (1 - flag))) ∧
      (word.Matches "8xy7" → (flag = 1 ↔ left ≤ right) ∧
        (word.x ≠ flagRegister → (result : Int) = right - left + 256 * (1 - flag))) ∧
      (word.Matches "8xy6" → (flag = 1 ↔ left % 2 = 1) ∧
        (word.x ≠ flagRegister → 2 * result + flag = left)) ∧
      (word.Matches "8xyE" → (flag = 1 ↔ 128 ≤ left) ∧
        (word.x ≠ flagRegister → result + 256 * flag = 2 * left)) ∧
      (word.MatchesAny ["8xy0", "8xy1", "8xy2", "8xy3"] →
        machine.step.result = .ok () ∧ ∀ register, register ≠ word.x →
          later.registers.get register = machine.registers.get register) ∧
      (word.Matches "8xy0" → result = right) ∧
      (word.Matches "8xy1" → result = left ||| right) ∧
      (word.Matches "8xy2" → result = left &&& right) ∧
      (word.Matches "8xy3" → result = left ^^^ right) ∧
      (word.Matches "7xnn" →
        machine.step.result = .ok () ∧ result = (left + word.nn.toNat) % 256 ∧
          ∀ register, register ≠ word.x →
            later.registers.get register = machine.registers.get register) := by
  intro left right later result flag
  refine ⟨?_, flag_of_add fetches, flag_of_subtract fetches, flag_of_subtractFrom fetches,
    flag_of_shiftRight fetches, flag_of_shiftLeft fetches, step_of_anyUnflagged fetches,
    fun fits => value_of_unflagged .copy fetches fits rfl, ?_, ?_, ?_, ?_⟩
  · intro fits
    rcases step_of_anyFlagged fetches fits with ⟨succeeded, bit, others⟩
    exact ⟨succeeded, bit, Nat.le_of_lt_succ (UInt8.toNat_lt _), others⟩
  · intro fits
    exact (value_of_unflagged .or fetches fits rfl).trans (UInt8.toNat_or _ _)
  · intro fits
    exact (value_of_unflagged .and fetches fits rfl).trans (UInt8.toNat_and _ _)
  · intro fits
    exact (value_of_unflagged .xor fetches fits rfl).trans (UInt8.toNat_xor _ _)
  · intro fits
    rcases step_of_addByte fetches fits with ⟨succeeded, stored, others⟩
    exact ⟨succeeded, (congrArg UInt8.toNat stored).trans (UInt8.toNat_add _ _), others⟩

/-- A machine about to add its flag register, which holds 200, to a register that holds 100. -/
def addingFlag : Machine :=
  (create (Random.ofSeed 0)).machine.performAll
    [.load #[0x6F, 0xC8, 0x61, 0x64, 0x81, 0xF4], .step, .step]

/-- The old flag is the operand although the carry then replaces it. -/
theorem step_arithmetic_addingFlag :
    addingFlag.Fetches ⟨0x81F4⟩ ∧ addingFlag.step.result = .ok () ∧
      (addingFlag.step.machine.registers.get flagRegister).toNat = 1 ∧
      (addingFlag.step.machine.registers.get 1).toNat + 256 = 100 + 200 := by
  have fetches : addingFlag.Fetches ⟨0x81F4⟩ := by decide +kernel
  have left : (addingFlag.registers.get (Word.x ⟨0x81F4⟩)).toNat = 100 := by decide +kernel
  have right : (addingFlag.registers.get (Word.y ⟨0x81F4⟩)).toNat = 200 := by decide +kernel
  rcases step_arithmetic fetches with ⟨common, add, _⟩
  rcases common (by decide) with ⟨succeeded, _, _, _⟩
  rcases add (by decide) with ⟨carries, sum⟩
  rw [left, right] at carries
  have carried := carries.mpr (by decide)
  have whole := sum (by decide)
  rw [left, right, carried] at whole
  exact ⟨fetches, succeeded, carried, whole⟩

end Machine

end ChipEight
