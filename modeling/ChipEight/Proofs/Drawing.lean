import ChipEight.Proofs.Execution
import ChipEight.Proofs.Outcome

/-!
# Which steps draw

The screen is touched by the steps that carry out one of two words, the one that clears it and the
one that draws a sprite, and by no others.  Both ask for the frame to be shown, whether or not any
pixel changed; no step takes such a wish back.
-/

namespace ChipEight.Machine

/-- The word at the program counter clears the screen or draws a sprite. -/
def draws (machine : Machine) : Bool :=
  machine.fetch?.any fun word => word.Matches "00E0" ∨ word.Matches "Dxyn"

/-- Which steps draw can be told from the pattern of the word that comes next. -/
theorem draws_eq_true_iff (machine : Machine) :
    machine.draws = true ↔
      ∃ word, machine.fetch? = some word ∧ (word.Matches "00E0" ∨ word.Matches "Dxyn") := by
  cases fetched : machine.fetch? <;> simp [draws, fetched]

/-- Of the instructions, two draw. -/
theorem draws_of_upcoming_ok
    {machine : Machine} {instruction : Instruction}
    (upcoming : machine.upcoming = .ok instruction) :
    machine.draws =
      match instruction with
      | .clearScreen | .draw _ _ _ => true
      | _ => false := by
  rcases (upcoming_eq_ok_iff machine instruction).mp upcoming with ⟨word, fetched, decoded, _⟩
  have operands := Word.operandsFrom_of_instruction? decoded
  simp only [draws, fetched, Option.any_some, word.matches_iff "00E0" .clearScreen,
    word.matches_iff "Dxyn" (.draw word.x word.y word.n), decoded]
  cases instruction with
  | draw x y height =>
      rcases operands with ⟨rfl, rfl, rfl⟩
      simp
  | _ => simp

/-- A step that fails leaves the screen alone. -/
theorem screen_step_of_fault
    {machine : Machine} {fault : Fault} (failed : machine.step.result = .error fault) :
    machine.step.machine.screen = machine.screen := by
  rw [step_machine_of_fault failed]

/-- A successful step that does not draw leaves the screen alone. -/
theorem screen_step_of_not_draws
    {machine : Machine} (succeeded : machine.step.result = .ok ()) (other : machine.draws = false) :
    machine.step.machine.screen = machine.screen := by
  rcases (step_result_ok_iff machine).mp succeeded with ⟨running, instruction, upcoming⟩
  rw [draws_of_upcoming_ok upcoming] at other
  rw [(step_of_upcoming_ok running upcoming).1]
  show (machine.execute instruction).screen = machine.screen
  rw [execute_screen]
  cases instruction with
  | clearScreen => cases other
  | draw x y height => cases other
  | _ => rfl

/-- A successful step asks for the frame to be shown if it draws, and leaves the wish of an earlier
step in place. -/
theorem redraw_step
    {machine : Machine} (succeeded : machine.step.result = .ok ()) :
    machine.step.machine.screen.redraw = (machine.draws || machine.screen.redraw) := by
  cases draws : machine.draws with
  | false => rw [screen_step_of_not_draws succeeded draws, Bool.false_or]
  | true =>
      rcases (step_result_ok_iff machine).mp succeeded with ⟨running, instruction, upcoming⟩
      rw [draws_of_upcoming_ok upcoming] at draws
      rw [(step_of_upcoming_ok running upcoming).1, Bool.true_or]
      show (machine.execute instruction).screen.redraw = true
      rw [execute_screen]
      cases instruction with
      | clearScreen => rfl
      | draw x y height => rfl
      | _ => cases draws

end ChipEight.Machine
