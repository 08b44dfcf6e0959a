import ChipEight.Proofs.Microcode.Actions

/-!
# Safety of the reachable machines

No operation of a reachable machine is outside its range: every sum that goes into the program
counter or the index is the sum of the numbers, every index lies inside its array and the depth of
the stack stays within its slots.  All of this follows from the bounds of the reachable machines,
since the microprogram of an action runs without a trap on every machine within the bounds.
-/

namespace ChipEight.Machine

/-- Each slot in use holds an address where a whole word was fetched. -/
theorem Bounded.slot_le
    {machine : Machine} (bounded : machine.Bounded)
    {slot : Fin 16} (used : slot.val < machine.stack.depth) :
    (machine.stack.slots.get slot).toNat ≤ 0xFFE := by
  apply bounded.entries_le
  rw [CallStack.entries, List.mem_take_iff_getElem]
  exact ⟨slot.val, Nat.lt_min.mpr ⟨used, by simp⟩, by simp⟩

/-- No action of a machine within its bounds is trapped. -/
theorem Bounded.no_trap
    {machine later : Machine} (bounded : machine.Bounded) (action : Action) :
    (Micro.perform action).run machine ≠ .error .trap later := by
  rw [Micro.run_perform bounded action]
  cases (machine.perform action).result with
  | ok => nofun
  | error fault => nofun

/--
Nothing wraps around and nothing is accessed outside its array in any reachable machine.  Its
program counter is at most `0x10FE`, its stack has at most sixteen entries and those in use are at
most `0xFFE`.  Where an instruction continues and where it leaves the index are the exact sums of
numbers.  And the microprogram of whatever is done next, in which every access, every such sum and
every change of the depth is checked, meets no trap and comes to the result and the machine that the
action has.
-/
theorem operations_in_range {machine : Machine} (reachable : machine.Reachable) :
    machine.pc.toNat ≤ 0x10FE ∧ machine.stack.depth ≤ 16 ∧
      (∀ slot : Fin 16, slot.val < machine.stack.depth →
        (machine.stack.slots.get slot).toNat ≤ 0xFFE) ∧
      (∀ instruction, machine.upcoming = .ok instruction →
        (machine.execute instruction).pc.toNat = machine.continuation instruction ∧
          (machine.execute instruction).index.toNat = machine.movedIndex instruction) ∧
      ∀ action,
        (∀ later, (Micro.perform action).run machine ≠ .error .trap later) ∧
          (Micro.perform action).run machine =
            match (machine.perform action).result with
            | .ok () => .ok () (machine.perform action).machine
            | .error fault => .error (.fault fault) (machine.perform action).machine := by
  have bounded := reachable.bounded
  refine ⟨bounded.pc_le, bounded.depth_le, ?_, ?_, ?_⟩
  · intro slot used
    exact bounded.slot_le used
  · intro instruction upcoming
    exact ⟨bounded.toNat_execute_pc upcoming, bounded.toNat_execute_index upcoming⟩
  · intro action
    exact ⟨fun _ => bounded.no_trap action, Micro.run_perform bounded action⟩

/-- A machine that jumped as far beyond memory as a jump can go. -/
def farJumped : Machine :=
  (create (Random.ofSeed 0)).machine.performAll [.load #[0x60, 0xFF, 0xBF, 0xFF], .step, .step]

/-- After the furthest jump the program counter lies outside memory, and no step is trapped there.
-/
theorem operations_in_range_farJumped :
    farJumped.Reachable ∧ farJumped.pc.toNat = 0x10FE ∧ farJumped.stack.depth ≤ 16 ∧
      ∀ later, (Micro.perform .step).run farJumped ≠ .error .trap later := by
  have reachable : farJumped.Reachable := ⟨_, _, rfl⟩
  rcases operations_in_range reachable with ⟨_, depth, _, _, runs⟩
  exact ⟨reachable, by decide +kernel, depth, (runs .step).1⟩

end ChipEight.Machine
