import ChipEight.Machine.Action

/-!
# What a step can do

A step of a halted machine fails and changes nothing, a step without an upcoming instruction only
halts the machine, and any other step carries its instruction out and counts the timers down.  The
lemmas of this module say so once; the upcoming instruction in turn is read off the fetched word.
-/

namespace ChipEight.Machine

/-! ## The upcoming instruction -/

theorem fetch?_eq_some_iff (machine : Machine) (word : Word) :
    machine.fetch? = some word ↔
      machine.pc.toNat ≤ 0xFFE ∧
        Word.ofBytes (machine.memory.read machine.pc.toNat)
          (machine.memory.read (machine.pc.toNat + 1)) = word := by
  have last : machine.pc.toNat + 1 < Memory.size ↔ machine.pc.toNat ≤ 0xFFE := by
    simp only [Memory.size]
    omega
  by_cases inside : machine.pc.toNat ≤ 0xFFE <;> simp [fetch?, last, inside]

theorem fetch?_eq_none_iff (machine : Machine) :
    machine.fetch? = none ↔ 0xFFE < machine.pc.toNat := by
  have last : machine.pc.toNat + 1 < Memory.size ↔ ¬ 0xFFE < machine.pc.toNat := by
    simp only [Memory.size]
    omega
  by_cases outside : 0xFFE < machine.pc.toNat <;> simp [fetch?, last, outside]

/-- An instruction comes next exactly if the word at the program counter asks for it without a
fault. -/
theorem upcoming_eq_ok_iff (machine : Machine) (instruction : Instruction) :
    machine.upcoming = .ok instruction ↔
      ∃ word, machine.fetch? = some word ∧ word.instruction? = some instruction ∧
        machine.fault? instruction = none := by
  cases fetched : machine.fetch? with
  | none => simp [upcoming, fetched]
  | some word =>
      cases decoded : word.instruction? with
      | none => simp [upcoming, fetched, decoded]
      | some found =>
          cases fault : machine.fault? found with
          | none =>
              simp only [upcoming, fetched, decoded, fault, Except.ok.injEq, Option.some.injEq]
              constructor
              · rintro rfl
                exact ⟨word, rfl, decoded, fault⟩
              · rintro ⟨_, rfl, same, _⟩
                exact Option.some.inj (decoded.symm.trans same)
          | some fault' =>
              simp only [upcoming, fetched, decoded, fault, reduceCtorEq, false_iff]
              rintro ⟨_, same, decoded', none⟩
              cases same
              rw [decoded] at decoded'
              cases decoded'
              rw [fault] at none
              cases none

/-- A step can fail for want of a word, of an instruction, or by the fault of the instruction. -/
theorem upcoming_eq_error_iff (machine : Machine) (fault : Fault) :
    machine.upcoming = .error fault ↔
      (machine.fetch? = none ∧ fault = .fetchOutside machine.pc) ∨
        ∃ word, machine.fetch? = some word ∧
          ((word.instruction? = none ∧ fault = .unknownWord word machine.pc) ∨
            ∃ instruction, word.instruction? = some instruction ∧
              machine.fault? instruction = some fault) := by
  cases fetched : machine.fetch? with
  | none => simp [upcoming, fetched, eq_comm]
  | some word =>
      cases decoded : word.instruction? with
      | none => simp [upcoming, fetched, decoded, eq_comm]
      | some instruction =>
          cases stopped : machine.fault? instruction with
          | none => simp [upcoming, fetched, decoded, stopped]
          | some other => simp [upcoming, fetched, decoded, stopped]

/-! ## The three kinds of steps -/

theorem step_of_halted {machine : Machine} (halted : machine.halted = true) :
    machine.step = ⟨machine, .error .halted, []⟩ := by
  simp [step, halted]

theorem step_of_upcoming_ok
    {machine : Machine} {instruction : Instruction}
    (running : machine.halted = false) (upcoming : machine.upcoming = .ok instruction) :
    machine.step.machine = (machine.execute instruction).tick ∧ machine.step.result = .ok () := by
  simp [step, running, upcoming]

theorem step_of_upcoming_error
    {machine : Machine} {fault : Fault}
    (running : machine.halted = false) (upcoming : machine.upcoming = .error fault) :
    machine.step.machine = { machine with halted := true } ∧
      machine.step.result = .error fault := by
  simp [step, running, upcoming]

/-- A step that carries an instruction out, with what it tells. -/
theorem step_eq_of_upcoming_ok
    {machine : Machine} {word : Word} {instruction : Instruction}
    (running : machine.halted = false) (fetched : machine.fetch? = some word)
    (upcoming : machine.upcoming = .ok instruction) :
    machine.step =
      ⟨(machine.execute instruction).tick, .ok (),
        .fetched machine.pc word :: machine.executionNotices instruction⟩ := by
  simp [step, running, upcoming, fetchNotices, fetched]

/-- A step that refuses the word it fetched, with what it tells. -/
theorem step_eq_of_upcoming_error
    {machine : Machine} {word : Word} {fault : Fault}
    (running : machine.halted = false) (fetched : machine.fetch? = some word)
    (upcoming : machine.upcoming = .error fault) :
    machine.step =
      ⟨{ machine with halted := true }, .error fault,
        [.fetched machine.pc word, .halting fault]⟩ := by
  simp [step, running, upcoming, fetchNotices, fetched]

/-- A step that finds no word, with what it tells. -/
theorem step_eq_of_fetch?_none
    {machine : Machine} (running : machine.halted = false) (missing : machine.fetch? = none) :
    machine.step =
      ⟨{ machine with halted := true }, .error (.fetchOutside machine.pc),
        [.halting (.fetchOutside machine.pc)]⟩ := by
  simp [step, running, upcoming, fetchNotices, missing]

theorem step_result_ok_iff (machine : Machine) :
    machine.step.result = .ok () ↔
      machine.halted = false ∧ ∃ instruction, machine.upcoming = .ok instruction := by
  cases halted : machine.halted with
  | true => simp [step, halted]
  | false =>
      cases upcoming : machine.upcoming with
      | ok instruction => simp [step, halted, upcoming]
      | error fault => simp [step, halted, upcoming]

/-- A step fails on a halted machine, and on a running one with the fault that comes next. -/
theorem step_result_error_iff (machine : Machine) (fault : Fault) :
    machine.step.result = .error fault ↔
      (machine.halted = true ∧ fault = .halted) ∨
        (machine.halted = false ∧ machine.upcoming = .error fault) := by
  cases halted : machine.halted with
  | true => simp [step, halted, eq_comm]
  | false =>
      cases upcoming : machine.upcoming with
      | ok instruction => simp [step, halted, upcoming]
      | error other => simp [step, halted, upcoming]

/-- A step that fails halts the machine, if it was not halted before, and does nothing else. -/
theorem step_machine_of_fault
    {machine : Machine} {fault : Fault} (failed : machine.step.result = .error fault) :
    machine.step.machine = { machine with halted := true } := by
  rcases (step_result_error_iff machine fault).mp failed with ⟨halted, _⟩ | ⟨running, upcoming⟩
  · rw [step_of_halted halted, ← halted]
  · exact (step_of_upcoming_error running upcoming).1

theorem fetched_of_step_ok {machine : Machine} (succeeded : machine.step.result = .ok ()) :
    ∃ word, machine.fetch? = some word := by
  rcases (step_result_ok_iff machine).mp succeeded with ⟨_, instruction, upcoming⟩
  rcases (upcoming_eq_ok_iff machine instruction).mp upcoming with ⟨word, fetched, _, _⟩
  exact ⟨word, fetched⟩

/-- A successful step carries out the instruction of the word that it fetched. -/
theorem carried_of_step_ok
    {machine : Machine} {word : Word}
    (succeeded : machine.step.result = .ok ()) (fetched : machine.fetch? = some word) :
    ∃ instruction, word.instruction? = some instruction ∧ machine.upcoming = .ok instruction ∧
      machine.step.machine = (machine.execute instruction).tick := by
  rcases (step_result_ok_iff machine).mp succeeded with ⟨running, instruction, upcoming⟩
  rcases (upcoming_eq_ok_iff machine instruction).mp upcoming with ⟨other, fetchedOther, decoded, _⟩
  rw [fetched] at fetchedOther
  cases fetchedOther
  exact ⟨instruction, decoded, upcoming, (step_of_upcoming_ok running upcoming).1⟩

/-- A step leaves the machine alone, halts it, or carries an instruction out. -/
theorem step_machine_cases (machine : Machine) :
    machine.step.machine = machine ∨ machine.step.machine = { machine with halted := true } ∨
      ∃ instruction, machine.halted = false ∧ machine.upcoming = .ok instruction ∧
        machine.step.machine = (machine.execute instruction).tick := by
  cases halted : machine.halted with
  | true => exact Or.inl (congrArg Outcome.machine (step_of_halted halted))
  | false =>
      cases upcoming : machine.upcoming with
      | ok instruction =>
          exact Or.inr (Or.inr
            ⟨instruction, rfl, rfl, (step_of_upcoming_ok halted upcoming).1⟩)
      | error fault => exact Or.inr (Or.inl (step_of_upcoming_error halted upcoming).1)

end ChipEight.Machine
