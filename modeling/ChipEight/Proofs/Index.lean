import ChipEight.Proofs.Footprint
import ChipEight.Proofs.Halting
import ChipEight.Proofs.History

/-!
# When the index leaves memory

Five instructions write the index.  Three of them point it at an address, whatever it was before.
The other two move it past the registers that they transferred, and the sum is not reduced to an
address: a transfer that ends with the last byte of memory leaves the index at `0x1000`, where there
is no byte.

There the index stays until one of the three points it elsewhere or the machine is started again,
since no transfer fits there.  If it is the addition of a register that brings it back, then the sum
looks like a carry, even if the register is zero.
-/

namespace ChipEight.Machine

/-- The action is a successful step that transfers registers up to the last byte of memory. -/
def FillsToEnd (machine : Machine) : Action → Prop
  | .step =>
      machine.step.result = .ok () ∧
        ∃ word ∈ machine.fetch?, (word.Matches "Fx55" ∨ word.Matches "Fx65") ∧
          machine.index.toNat + word.x.val + 1 = 0x1000
  | _ => False

/-- The action starts the machine or is a successful step that points the index at an address. -/
def Repoints (machine : Machine) : Action → Prop
  | .step =>
      machine.step.result = .ok () ∧
        ∃ word ∈ machine.fetch?, word.Matches "Annn" ∨ word.Matches "Fx1E" ∨ word.Matches "Fx29"
  | action => action.restarts = true

instance (machine : Machine) : (action : Action) → Decidable (FillsToEnd machine action)
  | .step => inferInstanceAs (Decidable (machine.step.result = .ok () ∧
      ∃ word ∈ machine.fetch?, (word.Matches "Fx55" ∨ word.Matches "Fx65") ∧
        machine.index.toNat + word.x.val + 1 = 0x1000))
  | .load _ | .reset | .key _ | .takeRedraw => inferInstanceAs (Decidable False)

instance (machine : Machine) : (action : Action) → Decidable (Repoints machine action)
  | .step => inferInstanceAs (Decidable (machine.step.result = .ok () ∧
      ∃ word ∈ machine.fetch?, word.Matches "Annn" ∨ word.Matches "Fx1E" ∨ word.Matches "Fx29"))
  | .load program => inferInstanceAs (Decidable ((Action.load program).restarts = true))
  | .reset => inferInstanceAs (Decidable (Action.reset.restarts = true))
  | .key change => inferInstanceAs (Decidable ((Action.key change).restarts = true))
  | .takeRedraw => inferInstanceAs (Decidable (Action.takeRedraw.restarts = true))

/-- The run moved the index to the end of memory and did not point it elsewhere since. -/
def PastMemory (random : Random) (actions : List Action) : Prop :=
  Outstanding FillsToEnd Repoints (create random).machine actions

instance (random : Random) (actions : List Action) : Decidable (PastMemory random actions) :=
  inferInstanceAs (Decidable (Outstanding FillsToEnd Repoints (create random).machine actions))

namespace Bounded

variable {machine : Machine} {word : Word}

/-! ## One step -/

/-- The index is at the end of memory after a transfer up to there, or if it was and stays. -/
theorem index_step_eq_end_iff
    (bounded : machine.Bounded) (succeeded : machine.step.result = .ok ())
    (fetched : machine.fetch? = some word) :
    machine.step.machine.index.toNat = 0x1000 ↔
      ((word.Matches "Fx55" ∨ word.Matches "Fx65") ∧
          machine.index.toNat + word.x.val + 1 = 0x1000) ∨
        (machine.index.toNat = 0x1000 ∧
          ¬ (word.Matches "Annn" ∨ word.Matches "Fx1E" ∨ word.Matches "Fx29")) := by
  rcases carried_of_step_ok succeeded fetched with ⟨instruction, decoded, upcoming, carried⟩
  have operands := Word.operandsFrom_of_instruction? decoded
  have harmless := fault?_of_upcoming_ok upcoming
  have moved : machine.step.machine.index.toNat = machine.movedIndex instruction := by
    rw [carried]
    exact bounded.toNat_execute_index upcoming
  rw [moved, word.matches_iff "Fx55" (.storeRegisters word.x),
    word.matches_iff "Fx65" (.loadRegisters word.x), word.matches_iff "Annn" (.setIndex word.nnn),
    word.matches_iff "Fx1E" (.addIndex word.x), word.matches_iff "Fx29" (.pointGlyph word.x),
    decoded]
  cases instruction with
  | setIndex target =>
      cases operands
      have address : machine.movedIndex (.setIndex word.nnn) < 0x1000 := word.nnn.isLt
      simp [Nat.ne_of_lt address]
  | addIndex x =>
      cases operands
      have address : machine.movedIndex (.addIndex word.x) < 0x1000 := Nat.mod_lt _ (by decide)
      simp [Nat.ne_of_lt address]
  | pointGlyph x =>
      cases operands
      have address : machine.movedIndex (.pointGlyph word.x) < 0x1000 := by
        simp only [movedIndex, Memory.glyphSize]
        omega
      simp [Nat.ne_of_lt address]
  | storeRegisters x | loadRegisters x =>
      cases operands
      have room : machine.index.toNat + (word.x.val + 1) ≤ 0x1000 :=
        (reachFault?_eq_none_iff machine _).mp harmless
      simp only [movedIndex, Option.some.injEq, reduceCtorEq, or_false, false_or, or_self,
        not_false_eq_true, and_true, true_and]
      omega
  | _ => simp [movedIndex]

/-- Adding a register always succeeds, and the flag tells whether the sum is no address. -/
theorem step_of_addIndex
    (bounded : machine.Bounded) (fetches : machine.Fetches word) (adds : word.Matches "Fx1E") :
    let sum := machine.index.toNat + (machine.registers.get word.x).toNat
    machine.step.result = .ok () ∧ machine.step.machine.index.toNat = sum % 0x1000 ∧
      machine.step.machine.registers.get flagRegister = if 0x1000 ≤ sum then 1 else 0 := by
  intro sum
  have upcoming : machine.upcoming = .ok (.addIndex word.x) :=
    upcoming_of_fetches fetches ((word.matches_iff "Fx1E" (.addIndex word.x)).mp adds) rfl
  rcases step_of_upcoming_ok fetches.1 upcoming with ⟨carried, succeeded⟩
  rw [carried]
  refine ⟨succeeded, bounded.toNat_execute_index upcoming, ?_⟩
  show (machine.execute (.addIndex word.x)).registers.get flagRegister = _
  have flag : (machine.execute (.addIndex word.x)).registers.get flagRegister =
      (decide (0x1000 ≤ sum)).toUInt8 := by
    rw [execute_registers]
    simp [moveIndex, setFlag, setRegister, sum, Memory.size]
  rw [flag]
  by_cases carries : 0x1000 ≤ sum
  · rw [decide_eq_true carries, if_pos carries]
    rfl
  · rw [decide_eq_false carries, if_neg carries]
    rfl

/-! ## A run -/

/-- The index is at the end of memory after an action that puts it there or leaves it there. -/
theorem index_perform_eq_end_iff (bounded : machine.Bounded) (action : Action) :
    (machine.perform action).machine.index.toNat = 0x1000 ↔
      FillsToEnd machine action ∨ (machine.index.toNat = 0x1000 ∧ ¬ Repoints machine action) := by
  cases action with
  | step =>
      show machine.step.machine.index.toNat = 0x1000 ↔ _
      cases result : machine.step.result with
      | error fault =>
          rw [step_machine_of_fault result]
          simp [FillsToEnd, Repoints, result]
      | ok =>
          rcases fetched_of_step_ok result with ⟨word, fetched⟩
          rw [bounded.index_step_eq_end_iff result fetched]
          simp [FillsToEnd, Repoints, result, fetched]
  | load program =>
      by_cases restarts : (Action.load program).restarts = true
      · rcases perform_of_restarts restarts machine with ⟨_, started, _⟩
        simp [started, start, FillsToEnd, Repoints, restarts]
      · have refused : Memory.programCapacity < program.size := by
          simpa [Action.restarts] using restarts
        simp [Machine.perform, Machine.load, refused, FillsToEnd, Repoints, restarts]
  | reset => simp [Machine.perform, Machine.reset, start, FillsToEnd, Repoints, Action.restarts]
  | key change => simp [Machine.perform, FillsToEnd, Repoints, Action.restarts]
  | takeRedraw => simp [Machine.perform, FillsToEnd, Repoints, Action.restarts]

end Bounded

/-- The index is at the end of memory exactly since the last transfer that put it there. -/
theorem index_eq_end_iff (random : Random) (actions : List Action) :
    ((create random).machine.performAll actions).index.toNat = 0x1000 ↔
      PastMemory random actions := by
  have initially : (create random).machine.Bounded := bounded_start #[] random
  let property (machine : Machine) : Prop := machine.index.toNat = 0x1000
  constructor
  · intro past
    have begins (machine : Machine) (action : Action) (bounded : machine.Bounded) :=
      (bounded.index_perform_eq_end_iff action).mp
    rcases outstanding_of_performAll property begins initially past with ⟨atFirst, _⟩ | outstanding
    · cases atFirst
    · exact outstanding
  · refine performAll_of_outstanding property ?_ ?_ initially
    · intro machine action bounded happened
      exact (bounded.index_perform_eq_end_iff action).mpr (Or.inl happened)
    · intro machine action bounded past stays
      exact (bounded.index_perform_eq_end_iff action).mpr (Or.inr ⟨past, stays⟩)

/--
The index addresses memory, except after a transfer up to the last byte.  Whatever was done to a
new machine, the index is at most `0xFFF` unless the run is past memory, and is `0x1000` then.
Adding a register to the index always succeeds and brings it back; the flag is set exactly if the
sum is beyond `0xFFF`.  Within memory that is a carry, which a zero never makes; past memory every
register raises the flag.
-/
theorem index_in_memory_unless_past (random : Random) (actions : List Action) :
    let machine := (create random).machine.performAll actions
    (¬ PastMemory random actions → machine.index.toNat ≤ 0xFFF) ∧
      (PastMemory random actions → machine.index.toNat = 0x1000) ∧
      ∀ word, machine.Fetches word → word.Matches "Fx1E" →
        let added := (machine.registers.get word.x).toNat
        let flag := machine.step.machine.registers.get 0xF
        machine.step.result = .ok () ∧
          machine.step.machine.index.toNat = (machine.index.toNat + added) % 0x1000 ∧
          flag = (if 0x1000 ≤ machine.index.toNat + added then 1 else 0) ∧
          (¬ PastMemory random actions → added = 0 → flag = 0) ∧
          (PastMemory random actions → flag = 1) := by
  intro machine
  have bounded : machine.Bounded := Reachable.bounded ⟨random, actions, rfl⟩
  have past : machine.index.toNat = 0x1000 ↔ PastMemory random actions :=
    index_eq_end_iff random actions
  have within (notPast : ¬ PastMemory random actions) : machine.index.toNat ≤ 0xFFF := by
    have notEnd : machine.index.toNat ≠ 0x1000 := fun ends => notPast (past.mp ends)
    have limit := bounded.index_le
    omega
  refine ⟨within, past.mpr, ?_⟩
  intro word fetches adds added flag
  rcases bounded.step_of_addIndex fetches adds with ⟨succeeded, index, flagged⟩
  refine ⟨succeeded, index, flagged, ?_, ?_⟩
  · intro notPast zero
    have address : ¬ 0x1000 ≤ machine.index.toNat + added := by
      have limit := within notPast
      omega
    exact flagged.trans (if_neg address)
  · intro isPast
    have beyond : 0x1000 ≤ machine.index.toNat + added := by
      rw [past.mpr isPast]
      exact Nat.le_add_right _ _
    exact flagged.trans (if_pos beyond)

/-- A program that loads a register from the last byte of memory and adds it to the index. -/
def leaving : List Action :=
  [.load #[0xAF, 0xFF, 0xF0, 0x65, 0xF0, 0x1E], .step, .step]

/-- A transfer of the last byte of memory leaves the index behind it, and adding nothing to it then
sets the flag. -/
theorem index_in_memory_unless_past_leaving :
    let machine := (create (Random.ofSeed 0)).machine.performAll leaving
    PastMemory (Random.ofSeed 0) leaving ∧ machine.index.toNat = 0x1000 ∧
      machine.Fetches ⟨0xF01E⟩ ∧ machine.step.machine.registers.get 0xF = 1 := by
  intro machine
  have isPast : PastMemory (Random.ofSeed 0) leaving := by decide +kernel
  have fetches : machine.Fetches ⟨0xF01E⟩ := by decide +kernel
  have adds : Word.Matches ⟨0xF01E⟩ "Fx1E" := by decide
  rcases index_in_memory_unless_past (Random.ofSeed 0) leaving with ⟨_, past, sum⟩
  rcases sum _ fetches adds with ⟨_, _, _, _, flagged⟩
  refine ⟨isPast, past isPast, fetches, ?_⟩
  rw [flagged isPast]

/-- The index is not always an address, and a flag may be raised by adding a zero to it. -/
theorem index_leaves_memory :
    let machine := (create (Random.ofSeed 0)).machine.performAll leaving
    machine.Fetches ⟨0xF01E⟩ ∧ machine.registers.get 0 = 0 ∧
      machine.step.machine.registers.get 0xF = 1 ∧
      ¬ ∀ other : Machine, other.Reachable → other.index.toNat ≤ 0xFFF := by
  intro machine
  have reachable : machine.Reachable := ⟨_, _, rfl⟩
  have fetches : machine.Fetches ⟨0xF01E⟩ := by decide +kernel
  have outside : ¬ machine.index.toNat ≤ 0xFFF := by decide +kernel
  refine ⟨fetches, by decide +kernel, by decide +kernel, ?_⟩
  intro within
  exact outside (within machine reachable)

end ChipEight.Machine
