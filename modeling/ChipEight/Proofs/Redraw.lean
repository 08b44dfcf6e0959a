import ChipEight.Proofs.Execution
import ChipEight.Proofs.Step

/-!
# The redraw flag does not feed back

The flag tells the host that a frame waits to be shown.  No instruction reads it: two machines that
differ in nothing but the flag make steps with the same result and differ in nothing but the flag
afterwards.
-/

namespace ChipEight.Machine

def withRedraw (machine : Machine) (redraw : Bool) : Machine :=
  { machine with screen := { machine.screen with redraw := redraw } }

/-- Every component of the two machines is the same, except perhaps the redraw flag. -/
def SameExceptRedraw (first second : Machine) : Prop :=
  first = second.withRedraw first.screen.redraw

/-- Which instruction comes next does not depend on the flag. -/
theorem upcoming_withRedraw (machine : Machine) (redraw : Bool) :
    (machine.withRedraw redraw).upcoming = machine.upcoming :=
  rfl

/-- The flag decides about nothing but the flag after an instruction. -/
theorem execute_withRedraw (machine : Machine) (redraw : Bool) (instruction : Instruction) :
    (machine.withRedraw redraw).execute instruction =
      (machine.execute instruction).withRedraw
        ((machine.withRedraw redraw).execute instruction).screen.redraw := by
  cases instruction with
  | waitKey x =>
      have sameKeys : (machine.withRedraw redraw).keypad = machine.keypad := rfl
      simp only [execute, sameKeys]
      split <;> rfl
  | arithmetic operation x y => cases operation <;> rfl
  | loadRegisters x => simp only [execute, fillRegisters, passIndex, next, advance, withRedraw]
  | _ => rfl

namespace SameExceptRedraw

variable {first second : Machine}

theorem refl (machine : Machine) : machine.SameExceptRedraw machine :=
  rfl

/-- Setting or clearing the flag of the first machine changes nothing that is compared. -/
theorem withRedraw (same : first.SameExceptRedraw second) (redraw : Bool) :
    (first.withRedraw redraw).SameExceptRedraw second := by
  rw [SameExceptRedraw, same]
  rfl

theorem execute
    (same : first.SameExceptRedraw second) (instruction : Instruction) :
    (first.execute instruction).SameExceptRedraw (second.execute instruction) := by
  rw [same]
  exact execute_withRedraw second first.screen.redraw instruction

theorem tick (same : first.SameExceptRedraw second) :
    first.tick.SameExceptRedraw second.tick := by
  rw [same]
  rfl

theorem upcoming_eq (same : first.SameExceptRedraw second) : first.upcoming = second.upcoming := by
  rw [same]
  exact upcoming_withRedraw second first.screen.redraw

theorem halted_eq (same : first.SameExceptRedraw second) : first.halted = second.halted := by
  rw [same]
  rfl

/-- What a step tells does not depend on the flag. -/
theorem notices_step (same : first.SameExceptRedraw second) :
    first.step.notices = second.step.notices := by
  rw [same, Machine.step, Machine.step, upcoming_withRedraw]
  cases halted : second.halted with
  | true => simp [Machine.withRedraw, halted]
  | false =>
      cases upcoming : second.upcoming with
      | ok instruction =>
          cases instruction <;> simp [Machine.withRedraw, halted, fetchNotices, fetch?,
            executionNotices]
      | error fault => simp [Machine.withRedraw, halted, fetchNotices, fetch?]

/-- Machines that differ in nothing but the flag step alike. -/
theorem step (same : first.SameExceptRedraw second) :
    first.step.result = second.step.result ∧
      first.step.machine.SameExceptRedraw second.step.machine := by
  cases halted : second.halted with
  | true =>
      rw [step_of_halted (same.halted_eq.trans halted), step_of_halted halted]
      exact ⟨rfl, same⟩
  | false =>
      have running : first.halted = false := same.halted_eq.trans halted
      cases upcoming : second.upcoming with
      | ok instruction =>
          rcases step_of_upcoming_ok running (same.upcoming_eq.trans upcoming) with
            ⟨firstMachine, firstResult⟩
          rcases step_of_upcoming_ok halted upcoming with ⟨secondMachine, secondResult⟩
          rw [firstMachine, firstResult, secondMachine, secondResult]
          exact ⟨rfl, (same.execute instruction).tick⟩
      | error fault =>
          rcases step_of_upcoming_error running (same.upcoming_eq.trans upcoming) with
            ⟨firstMachine, firstResult⟩
          rcases step_of_upcoming_error halted upcoming with ⟨secondMachine, secondResult⟩
          rw [firstMachine, firstResult, secondMachine, secondResult]
          refine ⟨rfl, ?_⟩
          rw [same]
          rfl

end SameExceptRedraw

end ChipEight.Machine
