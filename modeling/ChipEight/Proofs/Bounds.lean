import ChipEight.Proofs.Execution
import ChipEight.Proofs.Reachable
import ChipEight.Proofs.Step

/-!
# Bounds of the reachable machines

A reachable machine keeps its program counter at or below `0x10FE`, its index at or below `0x1000`
and at most sixteen calls, each made where a whole word was fetched.

The bounds carry one another.  A word is fetched only up to `0xFFE`, so a call notes no higher
address and a return continues no higher than `0x1000`; the highest program counter is that of a
jump whose offset is added to the largest address.  The index stays an address except after a
transfer that ends with memory itself.
-/

namespace ChipEight.Machine

theorem toNat_add_of_lt {left right : UInt16} (small : left.toNat + right.toNat < 0x10000) :
    (left + right).toNat = left.toNat + right.toNat := by
  rw [UInt16.toNat_add]
  exact Nat.mod_eq_of_lt small

theorem toNat_ofNat_of_lt {number : Nat} (small : number < 0x10000) :
    (UInt16.ofNat number).toNat = number :=
  UInt16.toNat_ofNat_of_lt' small

/-- The bounds that every action keeps. -/
structure Bounded (machine : Machine) : Prop where
  pc_le : machine.pc.toNat ≤ 0x10FE
  index_le : machine.index.toNat ≤ 0x1000
  depth_le : machine.stack.depth ≤ CallStack.capacity
  entries_le : ∀ address ∈ machine.stack.entries, address.toNat ≤ 0xFFE

/-- Every machine that is started is in bounds, whatever the program. -/
theorem bounded_start (program : Array UInt8) (random : Random) :
    (start program random).Bounded where
  pc_le := by simp [start, Memory.programStart]
  index_le := by simp [start]
  depth_le := by simp [start, CallStack.empty]
  entries_le := by simp [start]

/-! ## What an upcoming instruction promises -/

/-- An instruction comes from two bytes of memory, so it starts before the last one. -/
theorem pc_le_of_upcoming_ok
    {machine : Machine} {instruction : Instruction}
    (upcoming : machine.upcoming = .ok instruction) : machine.pc.toNat ≤ 0xFFE := by
  rcases (upcoming_eq_ok_iff machine instruction).mp upcoming with ⟨word, fetched, _, _⟩
  exact ((fetch?_eq_some_iff machine word).mp fetched).1

theorem fault?_of_upcoming_ok
    {machine : Machine} {instruction : Instruction}
    (upcoming : machine.upcoming = .ok instruction) : machine.fault? instruction = none := by
  rcases (upcoming_eq_ok_iff machine instruction).mp upcoming with ⟨word, _, _, harmless⟩
  exact harmless

/-- A transfer goes through exactly when it ends inside memory. -/
theorem reachFault?_eq_none_iff (machine : Machine) (length : Nat) :
    machine.reachFault? length = none ↔ machine.index.toNat + length ≤ Memory.size := by
  simp [reachFault?]

theorem fault?_ret_eq_none_iff (machine : Machine) :
    machine.fault? .ret = none ↔ 0 < machine.stack.depth := by
  simp [fault?, Nat.pos_iff_ne_zero]

theorem fault?_call_eq_none_iff (machine : Machine) (target : Address) :
    machine.fault? (.call target) = none ↔ machine.stack.depth < CallStack.capacity := by
  simp [fault?]

/-! ## Exact sums -/

/-- Where an instruction continues, as a sum of numbers. -/
def continuation (machine : Machine) : Instruction → Nat
  | .ret => machine.stack.top.toNat + 2
  | .jump target | .call target => target.val
  | .skipIf condition => machine.pc.toNat + if machine.holds condition then 4 else 2
  | .jumpOffset base => base.val + (machine.registers.get 0).toNat
  | .waitKey _ => machine.pc.toNat + if machine.keypad.first?.isSome then 2 else 0
  | _ => machine.pc.toNat + 2

/-- Where an instruction leaves the index, as a sum of numbers. -/
def movedIndex (machine : Machine) : Instruction → Nat
  | .setIndex target => target.val
  | .addIndex x => (machine.index.toNat + (machine.registers.get x).toNat) % Memory.size
  | .pointGlyph x => (machine.registers.get x).toNat % 16 * Memory.glyphSize
  | .storeRegisters x | .loadRegisters x => machine.index.toNat + (x.val + 1)
  | _ => machine.index.toNat

namespace Bounded

variable {machine : Machine}

/-- A pending call was made where a whole word lies. -/
theorem top_le (bounded : machine.Bounded) (pending : 0 < machine.stack.depth) :
    machine.stack.top.toNat ≤ 0xFFE :=
  bounded.entries_le _ (machine.stack.top_mem_entries pending bounded.depth_le)

variable {instruction : Instruction}

/-- The furthest continuation is a jump to the last address with the largest offset. -/
theorem continuation_le
    (bounded : machine.Bounded) (upcoming : machine.upcoming = .ok instruction) :
    machine.continuation instruction ≤ 0x10FE := by
  have here : machine.pc.toNat ≤ 0xFFE := pc_le_of_upcoming_ok upcoming
  cases instruction with
  | ret =>
      have pending : 0 < machine.stack.depth :=
        (fault?_ret_eq_none_iff machine).mp (fault?_of_upcoming_ok upcoming)
      have caller : machine.stack.top.toNat ≤ 0xFFE := bounded.top_le pending
      simp only [continuation]
      omega
  | skipIf condition =>
      simp only [continuation]
      split <;> omega
  | jumpOffset base =>
      have offset : (machine.registers.get 0).toNat < 0x100 := UInt8.toNat_lt _
      simp only [continuation]
      omega
  | waitKey x =>
      simp only [continuation]
      split <;> omega
  | _ =>
      simp only [continuation]
      omega

/-- The exact continuation is small, so no sum that goes into the program counter wraps around. -/
theorem toNat_execute_pc
    (bounded : machine.Bounded) (upcoming : machine.upcoming = .ok instruction) :
    (machine.execute instruction).pc.toNat = machine.continuation instruction := by
  have small : machine.continuation instruction < 0x10000 :=
    Nat.lt_of_le_of_lt (bounded.continuation_le upcoming) (by decide)
  rw [execute_pc]
  cases instruction with
  | jump target => rfl
  | call target => rfl
  | skipIf condition =>
      cases succeeds : machine.holds condition with
      | true =>
          simp only [continuation, succeeds, if_true] at small ⊢
          exact toNat_add_of_lt small
      | false =>
          simp only [continuation, succeeds] at small ⊢
          exact toNat_add_of_lt small
  | waitKey x =>
      cases answered : machine.keypad.first?.isSome with
      | true =>
          simp only [continuation, answered, if_true] at small ⊢
          exact toNat_add_of_lt small
      | false => simp [continuation, answered]
  | _ => exact toNat_add_of_lt small

theorem movedIndex_le
    (bounded : machine.Bounded) (upcoming : machine.upcoming = .ok instruction) :
    machine.movedIndex instruction ≤ 0x1000 := by
  have harmless := fault?_of_upcoming_ok upcoming
  cases instruction with
  | setIndex target => exact Nat.le_of_lt target.isLt
  | addIndex x => exact Nat.le_of_lt (Nat.mod_lt _ (by decide))
  | pointGlyph x =>
      simp only [movedIndex, Memory.glyphSize]
      omega
  | storeRegisters x => exact (reachFault?_eq_none_iff machine _).mp harmless
  | loadRegisters x => exact (reachFault?_eq_none_iff machine _).mp harmless
  | _ => exact bounded.index_le

/-- No sum that goes into the index wraps around. -/
theorem toNat_execute_index
    (bounded : machine.Bounded) (upcoming : machine.upcoming = .ok instruction) :
    (machine.execute instruction).index.toNat = machine.movedIndex instruction := by
  have small : machine.movedIndex instruction < 0x10000 :=
    Nat.lt_of_le_of_lt (bounded.movedIndex_le upcoming) (by decide)
  have past (x : Register) (fits : machine.index.toNat + (x.val + 1) < 0x10000) :
      (machine.index + UInt16.ofNat (x.val + 1)).toNat = machine.index.toNat + (x.val + 1) := by
    have count : (UInt16.ofNat (x.val + 1)).toNat = x.val + 1 :=
      toNat_ofNat_of_lt (Nat.lt_of_le_of_lt (Nat.le_add_left _ _) fits)
    rw [toNat_add_of_lt (by rwa [count]), count]
  rw [execute_index]
  cases instruction with
  | setIndex target => rfl
  | addIndex x => exact toNat_ofNat_of_lt small
  | pointGlyph x => exact toNat_ofNat_of_lt small
  | storeRegisters x => exact past x small
  | loadRegisters x => exact past x small
  | _ => rfl

theorem execute_pc_le
    (bounded : machine.Bounded) (upcoming : machine.upcoming = .ok instruction) :
    (machine.execute instruction).pc.toNat ≤ 0x10FE := by
  rw [bounded.toNat_execute_pc upcoming]
  exact bounded.continuation_le upcoming

theorem execute_index_le
    (bounded : machine.Bounded) (upcoming : machine.upcoming = .ok instruction) :
    (machine.execute instruction).index.toNat ≤ 0x1000 := by
  rw [bounded.toNat_execute_index upcoming]
  exact bounded.movedIndex_le upcoming

theorem execute_stack_depth_le
    (bounded : machine.Bounded) (upcoming : machine.upcoming = .ok instruction) :
    (machine.execute instruction).stack.depth ≤ CallStack.capacity := by
  rw [execute_stack]
  cases instruction with
  | ret => exact Nat.le_trans (Nat.sub_le _ _) bounded.depth_le
  | call target =>
      exact (fault?_call_eq_none_iff machine target).mp (fault?_of_upcoming_ok upcoming)
  | _ => exact bounded.depth_le

theorem execute_stack_entries_le
    (bounded : machine.Bounded) (upcoming : machine.upcoming = .ok instruction) :
    ∀ address ∈ (machine.execute instruction).stack.entries, address.toNat ≤ 0xFFE := by
  rw [execute_stack]
  cases instruction with
  | ret =>
      intro address member
      rw [CallStack.entries_pop _ bounded.depth_le] at member
      exact bounded.entries_le address (List.dropLast_subset _ member)
  | call target =>
      have room : machine.stack.depth < CallStack.capacity :=
        (fault?_call_eq_none_iff machine target).mp (fault?_of_upcoming_ok upcoming)
      intro address member
      rw [CallStack.entries_push _ _ room] at member
      rcases List.mem_append.mp member with older | newest
      · exact bounded.entries_le address older
      · rw [List.mem_singleton.mp newest]
        exact pc_le_of_upcoming_ok upcoming
  | _ => exact bounded.entries_le

/-- Failed steps keep the bounds too, because they change nothing but the halt flag. -/
theorem step (bounded : machine.Bounded) : machine.step.machine.Bounded := by
  rcases step_machine_cases machine with same | halted | ⟨instruction, _, upcoming, carried⟩
  · rw [same]
    exact bounded
  · rw [halted]
    exact ⟨bounded.pc_le, bounded.index_le, bounded.depth_le, bounded.entries_le⟩
  · rw [carried]
    exact ⟨bounded.execute_pc_le upcoming, bounded.execute_index_le upcoming,
      bounded.execute_stack_depth_le upcoming, bounded.execute_stack_entries_le upcoming⟩

/-- Every action keeps the bounds: a load and a reset begin anew, the others leave them alone. -/
theorem perform (bounded : machine.Bounded) (action : Action) :
    (machine.perform action).machine.Bounded := by
  cases action with
  | load program =>
      simp only [Machine.perform, Machine.load]
      split
      · exact bounded
      · exact bounded_start program machine.random
  | reset => exact bounded_start #[] machine.random
  | step => exact bounded.step
  | key change =>
      exact ⟨bounded.pc_le, bounded.index_le, bounded.depth_le, bounded.entries_le⟩
  | takeRedraw =>
      exact ⟨bounded.pc_le, bounded.index_le, bounded.depth_le, bounded.entries_le⟩

end Bounded

/-- Every reachable machine keeps the bounds. -/
theorem Reachable.bounded {machine : Machine} (reachable : machine.Reachable) :
    machine.Bounded :=
  reachable.invariant (bounded_start #[]) fun _ action bounded => bounded.perform action

end ChipEight.Machine
