import ChipEight.Proofs.Microcode.Actions
import Mathlib.Control.Monad.Basic

/-!
# Faults halt the machine and nothing else

A step that fails leaves the machine as it was, except that it is halted: the microprogram of its
cycle stops before it has written anything.  A halted machine stays as it is under every step and
every refused program until a reset or a program that fits starts it again; the host may still write
the keypad and read the redraw flag, and nothing but these changes.
-/

namespace ChipEight.Machine

/-- Whether an action starts the machine again. -/
def Action.restarts : Action → Bool
  | .reset => true
  | .load program => decide (program.size ≤ Memory.programCapacity)
  | .step | .key _ | .takeRedraw => false

/--
A machine that is halted and otherwise as it was before, except for what the host may write: the
keypad and the redraw flag.
-/
structure Frozen (before machine : Machine) : Prop where
  halted : machine.halted = true
  same : machine =
    { before with
      halted := true
      keypad := machine.keypad
      screen := { before.screen with redraw := machine.screen.redraw } }

/-- A running machine that fails a step stopped its cycle before it wrote anything. -/
theorem Bounded.cycle_of_fault
    {machine : Machine} {fault : Fault} (bounded : machine.Bounded)
    (running : machine.halted = false) (failed : machine.step.result = .error fault) :
    machine.step.machine = { machine with halted := true } ∧
      Micro.cycle.run machine = .error (.fault fault) machine := by
  rcases (step_result_error_iff machine fault).mp failed with ⟨halted, _⟩ | ⟨_, upcoming⟩
  · rw [running] at halted
    cases halted
  · refine ⟨(step_of_upcoming_error running upcoming).1, ?_⟩
    rw [Micro.run_cycle bounded, upcoming]

/-- An action that does not start the machine again keeps it frozen. -/
theorem Frozen.perform
    {before machine : Machine} {action : Action} (frozen : Frozen before machine)
    (harmless : action.restarts = false) : Frozen before (machine.perform action).machine := by
  cases action with
  | load program =>
      have refused : machine.load program = ⟨machine, .error (.programTooLarge program.size), []⟩ :=
        if_pos (Nat.not_le.mp (of_decide_eq_false harmless))
      simp only [Machine.perform, refused]
      exact frozen
  | reset => cases harmless
  | step =>
      simp only [Machine.perform, step_of_halted frozen.halted]
      exact frozen
  | key change =>
      refine ⟨frozen.halted, ?_⟩
      rw [Machine.perform, frozen.same]
  | takeRedraw =>
      refine ⟨frozen.halted, ?_⟩
      rw [Machine.perform, frozen.same]
      rfl

/-- Whatever starts the machine again succeeds and puts it at the start of a program. -/
theorem perform_of_restarts
    {action : Action} (restarts : action.restarts = true) (machine : Machine) :
    ∃ program, (machine.perform action).machine = start program machine.random ∧
      (machine.perform action).result = .ok () := by
  cases action with
  | load program =>
      have accepted : ¬ Memory.programCapacity < program.size :=
        Nat.not_lt.mpr (of_decide_eq_true restarts)
      exact ⟨program, by simp [perform, load, accepted], by simp [perform, load, accepted]⟩
  | reset => exact ⟨#[], rfl, rfl⟩
  | step => cases restarts
  | key change => cases restarts
  | takeRedraw => cases restarts

/-- Whatever restarts a machine succeeds and leaves it running. -/
theorem restarted_perform
    {action : Action} (restarts : action.restarts = true) (machine : Machine) :
    (machine.perform action).result = .ok () ∧
      (machine.perform action).machine.halted = false := by
  rcases perform_of_restarts restarts machine with ⟨program, started, succeeded⟩
  rw [started]
  exact ⟨succeeded, rfl⟩

/--
A fault halts a reachable machine and does nothing else to it: its step changes no component but the
halt flag, and the cycle in which it arose had written nothing at all.  Whatever follows without a
reset or a program that fits, the machine stays halted, changes only in what the host writes, and
every step fails without any effect.  The first reset or program that fits starts it again.
-/
theorem fault_freezes
    {machine : Machine} (reachable : machine.Reachable) (running : machine.halted = false)
    {fault : Fault} (failed : machine.step.result = .error fault) :
    machine.step.machine = { machine with halted := true } ∧
      Micro.cycle.run machine = .error (.fault fault) machine ∧
      ∀ actions : List Action, (∀ action ∈ actions, action.restarts = false) →
        let later := machine.step.machine.performAll actions
        Frozen machine later ∧ later.step = ⟨later, .error .halted, []⟩ ∧
          ∀ action, action.restarts = true →
            (later.perform action).result = .ok () ∧
              (later.perform action).machine.halted = false := by
  rcases reachable.bounded.cycle_of_fault running failed with ⟨halts, cycle⟩
  refine ⟨halts, cycle, ?_⟩
  intro actions harmless later
  have frozen : Frozen machine (machine.step.machine.performAll actions) := by
    refine performAll_invariant ?_ ?_ harmless
    · intro between action allowed frozen
      exact frozen.perform allowed
    · rw [halts]
      exact ⟨rfl, rfl⟩
  refine ⟨frozen, step_of_halted frozen.halted, ?_⟩
  intro action restarts
  exact restarted_perform restarts later

/-- A machine about to fetch a word that is no instruction. -/
def lost : Machine :=
  (create (Random.ofSeed 0)).machine.performAll [.load #[0x00, 0x00]]

/-- A machine without a program halts at its first word and stays as it is. -/
theorem fault_freezes_lost :
    lost.Reachable ∧ lost.halted = false ∧
      lost.step.result = .error (.unknownWord ⟨0⟩ 0x200) ∧
      Frozen lost (lost.step.machine.performAll [.step, .key (.press 3), .takeRedraw, .step]) := by
  have reachable : lost.Reachable := ⟨_, _, rfl⟩
  have running : lost.halted = false := by decide +kernel
  have failed : lost.step.result = .error (.unknownWord ⟨0⟩ 0x200) := by decide +kernel
  rcases fault_freezes reachable running failed with ⟨_, _, freezes⟩
  exact ⟨reachable, running, failed, (freezes _ (by simp [Action.restarts])).1⟩

end ChipEight.Machine
