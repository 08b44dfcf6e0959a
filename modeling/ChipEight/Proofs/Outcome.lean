import ChipEight.Proofs.Bounds
import ChipEight.Proofs.Encoding
import Mathlib.Tactic.MkIffOfInductiveProp

/-!
# The outcome of a step

Which of its faults a step ends with, or that it ends with none, read off the state before it: the
halt flag, the program counter, the word there, the depth of the stack and the index.  The
conditions are stated through the patterns of the words, not through the decoder.
-/

namespace ChipEight.Machine

/-- The machine runs and this word, the high byte first, lies at its program counter. -/
def Fetches (machine : Machine) (word : Word) : Prop :=
  machine.halted = false ∧ machine.pc.toNat ≤ 0xFFE ∧
    word.bits.toNat =
      0x100 * (machine.memory.read machine.pc.toNat).toNat +
        (machine.memory.read (machine.pc.toNat + 1)).toNat

instance (machine : Machine) (word : Word) : Decidable (machine.Fetches word) :=
  inferInstanceAs (Decidable (machine.halted = false ∧ machine.pc.toNat ≤ 0xFFE ∧
    word.bits.toNat =
      0x100 * (machine.memory.read machine.pc.toNat).toNat +
        (machine.memory.read (machine.pc.toNat + 1)).toNat))

/-- The transfer that a word asks for reaches beyond the last byte of memory. -/
def Overruns (machine : Machine) (word : Word) : Prop :=
  (word.Matches "Dxyn" ∧ 4096 < machine.index.toNat + word.n.val) ∨
    (word.Matches "Fx33" ∧ 4096 < machine.index.toNat + 3) ∨
      ((word.Matches "Fx55" ∨ word.Matches "Fx65") ∧
        4096 < machine.index.toNat + word.x.val + 1)

theorem bits_toNat_ofBytes (high low : UInt8) :
    (Word.ofBytes high low).bits.toNat = 0x100 * high.toNat + low.toNat := by
  have highBound : high.toNat < 0x100 := high.toNat_lt
  have lowBound : low.toNat < 0x100 := low.toNat_lt
  simp only [Word.ofBytes, UInt16.toNat_ofNat']
  omega

theorem fetches_iff (machine : Machine) (word : Word) :
    machine.Fetches word ↔ machine.halted = false ∧ machine.fetch? = some word := by
  have sameBits (other : Word) : word.bits.toNat = other.bits.toNat ↔ other = word := by
    constructor
    · intro same
      cases word
      cases other
      exact congrArg Word.mk (UInt16.toNat_inj.mp same.symm)
    · rintro rfl
      rfl
  rw [Fetches, fetch?_eq_some_iff, ← bits_toNat_ofBytes, sameBits]

section Fetched

variable {machine : Machine} {word : Word} {instruction : Instruction}

theorem upcoming_of_fetches
    (fetches : machine.Fetches word) (decoded : word.instruction? = some instruction)
    (harmless : machine.fault? instruction = none) : machine.upcoming = .ok instruction :=
  (upcoming_eq_ok_iff machine instruction).mpr
    ⟨word, ((fetches_iff machine word).mp fetches).2, decoded, harmless⟩

/-- A step carries out the instruction of the word that it fetches, unless there is a fault. -/
theorem step_of_fetches
    (fetches : machine.Fetches word) (decoded : word.instruction? = some instruction)
    (harmless : machine.fault? instruction = none) :
    machine.step.machine = (machine.execute instruction).tick ∧ machine.step.result = .ok () :=
  step_of_upcoming_ok fetches.1 (upcoming_of_fetches fetches decoded harmless)

/-- A step tells the word first and then what its instruction tells. -/
theorem step_eq_of_fetches
    (fetches : machine.Fetches word) (decoded : word.instruction? = some instruction)
    (harmless : machine.fault? instruction = none) :
    machine.step =
      ⟨(machine.execute instruction).tick, .ok (),
        .fetched machine.pc word :: machine.executionNotices instruction⟩ :=
  step_eq_of_upcoming_ok fetches.1 ((fetches_iff machine word).mp fetches).2
    (upcoming_of_fetches fetches decoded harmless)

end Fetched

/-! ## The fault of a decoded instruction -/

/-- The first address outside memory is told, since the index never lies beyond it. -/
theorem Bounded.reachFault?_eq_some_iff
    {machine : Machine} (bounded : machine.Bounded) (length : Nat) (fault : Fault) :
    machine.reachFault? length = some fault ↔
      4096 < machine.index.toNat + length ∧ fault = .accessOutside 0x1000 machine.pc := by
  have highest : max machine.index (UInt16.ofNat Memory.size) = 0x1000 := by
    have within : machine.index ≤ UInt16.ofNat Memory.size :=
      UInt16.le_iff_toNat_le.mpr bounded.index_le
    exact (if_pos within).trans rfl
  by_cases overrun : 4096 < machine.index.toNat + length
  · simp [reachFault?, overrun, highest, eq_comm]
  · simp [reachFault?, overrun]

/-- The faults of a decoded instruction, by the pattern of its word. -/
theorem Bounded.fault?_eq_some_iff
    {machine : Machine} (bounded : machine.Bounded)
    {word : Word} {instruction : Instruction} (decoded : word.instruction? = some instruction)
    (fault : Fault) :
    machine.fault? instruction = some fault ↔
      (word.Matches "00EE" ∧ machine.stack.depth = 0 ∧ fault = .stackUnderflow machine.pc) ∨
        (word.Matches "2nnn" ∧ machine.stack.depth = 16 ∧ fault = .stackOverflow machine.pc) ∨
          (machine.Overruns word ∧ fault = .accessOutside 0x1000 machine.pc) := by
  have full : 16 ≤ machine.stack.depth ↔ machine.stack.depth = 16 := by
    have bound := bounded.depth_le
    simp only [CallStack.capacity] at bound
    omega
  rw [Overruns, word.matches_iff "00EE" .ret, word.matches_iff "2nnn" (.call word.nnn),
    word.matches_iff "Dxyn" (.draw word.x word.y word.n),
    word.matches_iff "Fx33" (.storeDecimal word.x),
    word.matches_iff "Fx55" (.storeRegisters word.x),
    word.matches_iff "Fx65" (.loadRegisters word.x), decoded]
  have operands := Word.operandsFrom_of_instruction? decoded
  cases instruction with
  | ret => simp [fault?, eq_comm]
  | call target =>
      cases operands
      simp [fault?, full, eq_comm]
  | draw x y height =>
      rcases operands with ⟨rfl, rfl, rfl⟩
      simp [fault?, bounded.reachFault?_eq_some_iff]
  | storeDecimal x =>
      cases operands
      simp [fault?, bounded.reachFault?_eq_some_iff]
  | storeRegisters x =>
      cases operands
      simp [fault?, bounded.reachFault?_eq_some_iff, Nat.add_assoc]
  | loadRegisters x =>
      cases operands
      simp [fault?, bounded.reachFault?_eq_some_iff, Nat.add_assoc]
  | _ => simp [fault?]

/-! ## The outcome -/

/-- The fault with which the machine refuses a word that it fetched. -/
@[mk_iff refuses_cases]
inductive Refuses (machine : Machine) (word : Word) : Fault → Prop where
  | unknownWord (unlisted : ∀ encoding ∈ encodings, ¬ word.Matches encoding.pattern) :
      Refuses machine word (.unknownWord word machine.pc)
  | stackUnderflow (fits : word.Matches "00EE") (empty : machine.stack.depth = 0) :
      Refuses machine word (.stackUnderflow machine.pc)
  | stackOverflow (fits : word.Matches "2nnn") (full : machine.stack.depth = 16) :
      Refuses machine word (.stackOverflow machine.pc)
  | accessOutside (overruns : machine.Overruns word) :
      Refuses machine word (.accessOutside 0x1000 machine.pc)

/-- A word that no instruction needs a stack or memory for is in no danger of either. -/
theorem not_matches_of_unlisted
    {word : Word} (refused : word.instruction? = none) (machine : Machine) :
    ¬ word.Matches "00EE" ∧ ¬ word.Matches "2nnn" ∧ ¬ machine.Overruns word := by
  simp [Overruns, word.matches_iff "00EE" .ret, word.matches_iff "2nnn" (.call word.nnn),
    word.matches_iff "Dxyn" (.draw word.x word.y word.n),
    word.matches_iff "Fx33" (.storeDecimal word.x),
    word.matches_iff "Fx55" (.storeRegisters word.x),
    word.matches_iff "Fx65" (.loadRegisters word.x), refused]

/-- A word is refused if it encodes no instruction or its instruction has a fault. -/
theorem Bounded.refuses_iff
    {machine : Machine} (bounded : machine.Bounded) (word : Word) (fault : Fault) :
    machine.Refuses word fault ↔
      (word.instruction? = none ∧ fault = .unknownWord word machine.pc) ∨
        ∃ instruction, word.instruction? = some instruction ∧
          machine.fault? instruction = some fault := by
  cases decoded : word.instruction? with
  | none =>
      have unlisted := (word.instruction?_eq_none_iff).mp decoded
      rcases not_matches_of_unlisted decoded machine with ⟨noReturn, noCall, noOverrun⟩
      constructor
      · intro refuses
        cases refuses with
        | unknownWord => exact Or.inl ⟨rfl, rfl⟩
        | stackUnderflow fits => exact absurd fits noReturn
        | stackOverflow fits => exact absurd fits noCall
        | accessOutside overruns => exact absurd overruns noOverrun
      · rintro (⟨_, rfl⟩ | ⟨_, impossible, _⟩)
        · exact .unknownWord unlisted
        · cases impossible
  | some instruction =>
      constructor
      · intro refuses
        refine Or.inr ⟨instruction, rfl, (bounded.fault?_eq_some_iff decoded fault).mpr ?_⟩
        cases refuses with
        | unknownWord unlisted =>
            rw [(word.instruction?_eq_none_iff).mpr unlisted] at decoded
            cases decoded
        | stackUnderflow fits empty => exact Or.inl ⟨fits, empty, rfl⟩
        | stackOverflow fits full => exact Or.inr (Or.inl ⟨fits, full, rfl⟩)
        | accessOutside overruns => exact Or.inr (Or.inr ⟨overruns, rfl⟩)
      · rintro (⟨impossible, _⟩ | ⟨_, same, faulty⟩)
        · cases impossible
        · cases same
          rcases (bounded.fault?_eq_some_iff decoded fault).mp faulty with
            ⟨fits, empty, rfl⟩ | ⟨fits, full, rfl⟩ | ⟨overruns, rfl⟩
          · exact .stackUnderflow fits empty
          · exact .stackOverflow fits full
          · exact .accessOutside overruns

/-- A step fails because the machine stopped before, because no word lies at its program counter,
or because it refuses the word there. -/
theorem Bounded.step_error_iff
    {machine : Machine} (bounded : machine.Bounded) (fault : Fault) :
    machine.step.result = .error fault ↔
      (machine.halted = true ∧ fault = .halted) ∨
        (machine.halted = false ∧ 0xFFE < machine.pc.toNat ∧ fault = .fetchOutside machine.pc) ∨
          ∃ word, machine.Fetches word ∧ machine.Refuses word fault := by
  rw [step_result_error_iff, upcoming_eq_error_iff, fetch?_eq_none_iff]
  simp only [fetches_iff, bounded.refuses_iff]
  cases machine.halted <;> simp

/-- A step succeeds exactly on a word that nothing refuses. -/
theorem Bounded.step_ok_iff {machine : Machine} (bounded : machine.Bounded) :
    machine.step.result = .ok () ↔
      ∃ word, machine.Fetches word ∧ ∀ fault, ¬ machine.Refuses word fault := by
  simp only [step_result_ok_iff, upcoming_eq_ok_iff, fetches_iff, bounded.refuses_iff]
  constructor
  · rintro ⟨running, instruction, word, fetched, decoded, harmless⟩
    refine ⟨word, ⟨running, fetched⟩, fun fault refused => ?_⟩
    rcases refused with ⟨undecoded, _⟩ | ⟨other, same, faulty⟩
    · rw [undecoded] at decoded
      cases decoded
    · rw [same] at decoded
      cases decoded
      rw [harmless] at faulty
      cases faulty
  · rintro ⟨word, ⟨running, fetched⟩, accepted⟩
    cases decoded : word.instruction? with
    | none => exact absurd (Or.inl ⟨decoded, rfl⟩) (accepted (.unknownWord word machine.pc))
    | some instruction =>
        cases harmless : machine.fault? instruction with
        | none => exact ⟨running, instruction, word, fetched, decoded, harmless⟩
        | some fault =>
            exact absurd (Or.inr ⟨instruction, decoded, harmless⟩) (accepted fault)

/-- A word is refused by nothing if it is in the table and neither the stack nor memory is exceeded.
-/
theorem accepts_iff (machine : Machine) (word : Word) :
    (∀ fault, ¬ machine.Refuses word fault) ↔
      (∃ encoding ∈ encodings, word.Matches encoding.pattern) ∧
        ¬ (word.Matches "00EE" ∧ machine.stack.depth = 0) ∧
        ¬ (word.Matches "2nnn" ∧ machine.stack.depth = 16) ∧ ¬ machine.Overruns word := by
  constructor
  · intro accepted
    refine ⟨?_, ?_, ?_, ?_⟩
    · by_contra unlisted
      exact accepted _ (.unknownWord fun encoding member fits => unlisted ⟨encoding, member, fits⟩)
    · rintro ⟨fits, empty⟩
      exact accepted _ (.stackUnderflow fits empty)
    · rintro ⟨fits, full⟩
      exact accepted _ (.stackOverflow fits full)
    · intro overruns
      exact accepted _ (.accessOutside overruns)
  · rintro ⟨⟨encoding, member, listed⟩, noUnderflow, noOverflow, noOverrun⟩ fault refuses
    cases refuses with
    | unknownWord unlisted => exact unlisted encoding member listed
    | stackUnderflow fits empty => exact noUnderflow ⟨fits, empty⟩
    | stackOverflow fits full => exact noOverflow ⟨fits, full⟩
    | accessOutside overruns => exact noOverrun overruns

/--
The result of a step of a reachable machine.  It is the fault of a halted machine exactly if the
machine is halted; a fetch outside memory exactly if a running machine has its program counter
beyond `0xFFE`; and otherwise decided by the fetched word, which is unknown, returns from an empty
stack, calls with a full one, or reaches beyond memory, or else succeeds.  The address told with a
fault is always the program counter before the step, and the first address outside memory is always
`0x1000`.
-/
theorem step_outcome {machine : Machine} (reachable : machine.Reachable) :
    (machine.step.result = .error .halted ↔ machine.halted = true) ∧
      (∀ pc, machine.step.result = .error (.fetchOutside pc) ↔
        machine.halted = false ∧ 0xFFE < machine.pc.toNat ∧ pc = machine.pc) ∧
      (∀ word pc, machine.step.result = .error (.unknownWord word pc) ↔
        machine.Fetches word ∧ (∀ encoding ∈ encodings, ¬ word.Matches encoding.pattern) ∧
          pc = machine.pc) ∧
      (∀ pc, machine.step.result = .error (.stackUnderflow pc) ↔
        ∃ word, machine.Fetches word ∧ word.Matches "00EE" ∧ machine.stack.depth = 0 ∧
          pc = machine.pc) ∧
      (∀ pc, machine.step.result = .error (.stackOverflow pc) ↔
        ∃ word, machine.Fetches word ∧ word.Matches "2nnn" ∧ machine.stack.depth = 16 ∧
          pc = machine.pc) ∧
      (∀ address pc, machine.step.result = .error (.accessOutside address pc) ↔
        ∃ word, machine.Fetches word ∧ machine.Overruns word ∧ address = 0x1000 ∧
          pc = machine.pc) ∧
      (∀ size, machine.step.result ≠ .error (.programTooLarge size)) ∧
      (machine.step.result = .ok () ↔
        ∃ word, machine.Fetches word ∧ (∃ encoding ∈ encodings, word.Matches encoding.pattern) ∧
          ¬ (word.Matches "00EE" ∧ machine.stack.depth = 0) ∧
          ¬ (word.Matches "2nnn" ∧ machine.stack.depth = 16) ∧ ¬ machine.Overruns word) := by
  have bounded := reachable.bounded
  refine ⟨?_, ?_, ?_, ?_, ?_, ?_, ?_, ?_⟩
  · simp [bounded.step_error_iff, refuses_cases]
  · simp [bounded.step_error_iff, refuses_cases]
  · intro word pc
    simp only [bounded.step_error_iff, refuses_cases]
    constructor
    · rintro (⟨_, impossible⟩ | ⟨_, _, impossible⟩ | ⟨other, fetches, causes⟩)
      · cases impossible
      · cases impossible
      · rcases causes with ⟨unlisted, same⟩ | ⟨_, _, impossible⟩ | ⟨_, _, impossible⟩ |
          ⟨_, impossible⟩
        · cases same
          exact ⟨fetches, unlisted, rfl⟩
        all_goals cases impossible
    · rintro ⟨fetches, unlisted, rfl⟩
      exact Or.inr (Or.inr ⟨word, fetches, Or.inl ⟨unlisted, rfl⟩⟩)
  · simp [bounded.step_error_iff, refuses_cases]
  · simp [bounded.step_error_iff, refuses_cases]
  · simp [bounded.step_error_iff, refuses_cases]
  · simp [bounded.step_error_iff, refuses_cases]
  · simp only [bounded.step_ok_iff, accepts_iff]

/-- A machine about to draw two bytes of which only one lies in memory. -/
def drawingOutside : Machine :=
  (create (Random.ofSeed 0)).machine.performAll [.load #[0xAF, 0xFF, 0xD0, 0x12], .step]

/-- Drawing from the end of memory fails with the first address outside it. -/
theorem step_outcome_drawingOutside :
    drawingOutside.Reachable ∧
      drawingOutside.step.result = .error (.accessOutside 0x1000 0x202) := by
  have reachable : drawingOutside.Reachable := ⟨_, _, rfl⟩
  have fetches : drawingOutside.Fetches ⟨0xD012⟩ := by decide +kernel
  have draws : Word.Matches ⟨0xD012⟩ "Dxyn" := by decide
  have overruns : drawingOutside.Overruns ⟨0xD012⟩ := Or.inl ⟨draws, by decide +kernel⟩
  have here : (0x202 : UInt16) = drawingOutside.pc := by decide +kernel
  rcases step_outcome reachable with ⟨_, _, _, _, _, outside, _, _⟩
  exact ⟨reachable, (outside 0x1000 0x202).mpr ⟨_, fetches, overruns, rfl, here⟩⟩

end ChipEight.Machine
