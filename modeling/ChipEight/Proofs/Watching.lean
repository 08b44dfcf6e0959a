import ChipEight.Proofs.Cells
import ChipEight.Proofs.Drawing
import ChipEight.Proofs.Reachable

/-!
# Watching the screen

A machine under somebody who copies the picture whenever the redraw flag was set when taken.  The
picture is kept as bytes, which the operations on the screen change one by one.

Three things ask for the picture to be shown: a reset, a program that is accepted, and a step that
draws.  Nothing else changes the picture, and only taking the flag clears it.  From these two facts,
one lemma each, the copy is up to date whenever the flag is clear; they are the invariant of the
induction over the actions together with the agreement of the bytes and the frame.
-/

namespace ChipEight

namespace Machine

/-- The actions that ask for the picture to be shown. -/
inductive Redraws (machine : Machine) : Action → Prop where
  | load {program : Array UInt8} (accepted : (machine.load program).result = .ok ()) :
      Redraws machine (.load program)
  | reset : Redraws machine .reset
  | step {word : Word} (succeeded : machine.step.result = .ok ())
      (fetched : machine.fetch? = some word)
      (draws : word.Matches "00E0" ∨ word.Matches "Dxyn") : Redraws machine .step

theorem redraw_perform_of_redraws
    {machine : Machine} {action : Action} (redraws : machine.Redraws action) :
    (machine.perform action).machine.screen.redraw = true := by
  cases redraws with
  | @load program accepted =>
      show (machine.load program).machine.screen.redraw = true
      rw [load] at accepted ⊢
      split at accepted
      · cases accepted
      case isFalse small => rw [if_neg small]; rfl
  | reset => rfl
  | @step word succeeded fetched draws =>
      show machine.step.machine.screen.redraw = true
      rw [redraw_step succeeded, (draws_eq_true_iff machine).mpr ⟨word, fetched, draws⟩,
        Bool.true_or]

/-- Other actions leave the screen alone, except that one takes the flag. -/
theorem screen_perform_of_not_redraws
    {machine : Machine} {action : Action} (other : ¬machine.Redraws action) :
    (action = .takeRedraw ∧
        (machine.perform action).machine.screen = machine.screen.takeRedraw) ∨
      (action ≠ .takeRedraw ∧ (machine.perform action).machine.screen = machine.screen) := by
  cases action with
  | load program =>
      have same : (machine.load program).machine.screen = machine.screen := by
        rw [load]
        split
        · rfl
        case isFalse small => exact absurd (Redraws.load (by rw [load, if_neg small])) other
      exact Or.inr ⟨Action.noConfusion, same⟩
  | reset => exact absurd Redraws.reset other
  | step =>
      have same : machine.step.machine.screen = machine.screen := by
        cases result : machine.step.result with
        | error fault => exact screen_step_of_fault result
        | ok =>
            cases draws : machine.draws with
            | true =>
                rcases (draws_eq_true_iff machine).mp draws with ⟨word, fetched, drawing⟩
                exact absurd (Redraws.step result fetched drawing) other
            | false => exact screen_step_of_not_draws result draws
      exact Or.inr ⟨Action.noConfusion, same⟩
  | key change => exact Or.inr ⟨Action.noConfusion, rfl⟩
  | takeRedraw => exact Or.inl ⟨rfl, rfl⟩

/-- The flag is set by the actions that ask for the picture to be shown and by no others. -/
theorem redraw_perform_iff
    {machine : Machine} (clear : machine.screen.redraw = false) (action : Action) :
    (machine.perform action).machine.screen.redraw = true ↔ machine.Redraws action := by
  refine ⟨?_, redraw_perform_of_redraws⟩
  intro set
  refine Classical.byContradiction fun other => ?_
  rcases screen_perform_of_not_redraws other with ⟨_, taken⟩ | ⟨_, same⟩
  · rw [taken] at set
    cases set
  · rw [same, clear] at set
    cases set

/-! ## The picture as bytes -/

/-- The bytes of the picture after an instruction. -/
def paint (machine : Machine) (cells : Cells) : Instruction → Cells
  | .clearScreen => Cells.dark
  | .draw x y height =>
      let sprite := machine.memory.slice machine.index.toNat height.val
      let column := (machine.registers.get x).toNat
      let row := (machine.registers.get y).toNat
      ((Cells.drawSprite column row sprite).run cells).run.2
  | _ => cells

/-- The bytes of the picture after an action. -/
def repaint (machine : Machine) (cells : Cells) : Action → Cells
  | .load program =>
      match (machine.load program).result with
      | .ok () => Cells.dark
      | .error _ => cells
  | .reset => Cells.dark
  | .step =>
      match machine.step.result, machine.upcoming with
      | .ok (), .ok instruction => machine.paint cells instruction
      | _, _ => cells
  | .key _ | .takeRedraw => cells

/-- The account of bytes is painted as the frame is. -/
theorem paint_ofFrame (machine : Machine) (instruction : Instruction) :
    machine.paint (Cells.ofFrame machine.screen.frame) instruction =
      Cells.ofFrame (machine.execute instruction).screen.frame := by
  rw [execute_screen]
  cases instruction with
  | clearScreen => exact Cells.ofFrame_blank.symm
  | draw x y height => simp only [paint, Cells.run_drawSprite]; rfl
  | _ => rfl

/-- The bytes of the frame become the bytes of the frame after the action. -/
theorem repaint_ofFrame (machine : Machine) (action : Action) :
    machine.repaint (Cells.ofFrame machine.screen.frame) action =
      Cells.ofFrame (machine.perform action).machine.screen.frame := by
  cases action with
  | load program =>
      rw [repaint]
      show _ = Cells.ofFrame (machine.load program).machine.screen.frame
      by_cases large : Memory.programCapacity < program.size
      · rw [load, if_pos large]
      · rw [load, if_neg large]
        exact Cells.ofFrame_blank.symm
  | reset => exact Cells.ofFrame_blank.symm
  | step =>
      rw [repaint]
      show _ = Cells.ofFrame machine.step.machine.screen.frame
      cases result : machine.step.result with
      | error fault => rw [screen_step_of_fault result]
      | ok =>
          rcases (step_result_ok_iff machine).mp result with ⟨running, instruction, upcoming⟩
          rw [(step_of_upcoming_ok running upcoming).1, upcoming]
          exact paint_ofFrame machine instruction
  | key change => rfl
  | takeRedraw => rfl

end Machine

/-! ## A machine that is watched -/

/-- A machine, the bytes of its picture and the last copy that was made of them. -/
structure Watched where
  machine : Machine
  cells : Cells
  copy : Option Cells

namespace Watched

def create (random : Random) : Watched :=
  ⟨(Machine.create random).machine, Cells.dark, none⟩

/-- An action; whoever takes the flag copies the picture if the flag was set. -/
def perform (watched : Watched) (action : Machine.Action) : Watched where
  machine := (watched.machine.perform action).machine
  cells := watched.machine.repaint watched.cells action
  copy :=
    match action with
    | .takeRedraw => if watched.machine.screen.redraw then some watched.cells else watched.copy
    | _ => watched.copy

def performAll (watched : Watched) (actions : List Machine.Action) : Watched :=
  actions.foldl perform watched

/-- The bytes are those of the frame, and the copy is up to date unless the flag is set. -/
structure UpToDate (watched : Watched) : Prop where
  cells : watched.cells = Cells.ofFrame watched.machine.screen.frame
  copy : watched.machine.screen.redraw = false → watched.copy = some watched.cells

theorem upToDate_create (random : Random) : (create random).UpToDate where
  cells := Cells.ofFrame_blank.symm
  copy := nofun

/-- A copy stays up to date unless the flag is set. Where the action takes the flag there is a copy
from now, or the flag was clear before. -/
theorem UpToDate.perform
    {watched : Watched} (upToDate : watched.UpToDate) (action : Machine.Action) :
    (watched.perform action).UpToDate := by
  have cells : (watched.perform action).cells =
      Cells.ofFrame (watched.perform action).machine.screen.frame := by
    show watched.machine.repaint watched.cells action = _
    rw [upToDate.cells]
    exact Machine.repaint_ofFrame watched.machine action
  refine ⟨cells, ?_⟩
  intro clear
  have other : ¬watched.machine.Redraws action := by
    intro redraws
    have set : (watched.perform action).machine.screen.redraw = true :=
      Machine.redraw_perform_of_redraws redraws
    rw [clear] at set
    cases set
  rcases Machine.screen_perform_of_not_redraws other with ⟨rfl, taken⟩ | ⟨notTaken, same⟩
  · show (if watched.machine.screen.redraw then some watched.cells else watched.copy) =
      some watched.cells
    split
    · rfl
    case isFalse before => exact upToDate.copy (Bool.eq_false_iff.mpr before)
  · have sameScreen : (watched.perform action).machine.screen = watched.machine.screen := same
    have sameCells : (watched.perform action).cells = watched.cells := by
      rw [cells, sameScreen, upToDate.cells]
    have sameCopy : (watched.perform action).copy = watched.copy := by
      cases action with
      | takeRedraw => exact absurd rfl notTaken
      | _ => rfl
    rw [sameScreen] at clear
    rw [sameCells, sameCopy, upToDate.copy clear]

theorem UpToDate.performAll
    {watched : Watched} (upToDate : watched.UpToDate) (actions : List Machine.Action) :
    (watched.performAll actions).UpToDate := by
  induction actions generalizing watched with
  | nil => exact upToDate
  | cons action rest later => exact later (upToDate.perform action)

theorem machine_performAll (watched : Watched) (actions : List Machine.Action) :
    (watched.performAll actions).machine = watched.machine.performAll actions := by
  induction actions generalizing watched with
  | nil => rfl
  | cons action rest later => exact later (watched.perform action)

/--
The redraw flag misses no change of the picture.  Whatever was done to a new machine, failed steps
and refused programs included: unless the flag is set, the picture has been copied and the copy is
the picture, byte for byte; each of its bytes is zero or one, as the pixel in that place is dark or
lit; and what is done next sets the flag only if it is a step that draws and succeeds, a reset or
the load of a program that is accepted.
-/
theorem copied_unless_due (random : Random) (actions : List Machine.Action) :
    let watched := (create random).performAll actions
    let machine := (Machine.create random).machine.performAll actions
    watched.machine = machine ∧
      (machine.screen.redraw = false → watched.copy = some watched.cells) ∧
      (∀ (cell : Nat) (inside : cell < 2048),
        (watched.cells.bytes[cell] = 0 ∨ watched.cells.bytes[cell] = 1) ∧
          (watched.cells.bytes[cell] = 1 ↔
            machine.screen.frame.pixel (cell % Frame.width) (cell / Frame.width) = true)) ∧
      ∀ action, machine.screen.redraw = false →
        ((machine.perform action).machine.screen.redraw = true ↔ machine.Redraws action) := by
  intro watched machine
  have same : watched.machine = machine := machine_performAll (create random) actions
  have upToDate : watched.UpToDate := (upToDate_create random).performAll actions
  refine ⟨same, ?_, ?_, ?_⟩
  · rw [← same]
    exact upToDate.copy
  · intro cell inside
    rw [← same, upToDate.cells, Cells.getElem_ofFrame _ inside]
    cases watched.machine.screen.frame.pixel (cell % Frame.width) (cell / Frame.width) <;> decide
  · intro action clear
    exact Machine.redraw_perform_iff clear action

/-- A program that draws the glyph of 0, whose frame is taken, and then fails to return. -/
def drawing : List Machine.Action :=
  [.load #[0xA0, 0x00, 0xD0, 0x05, 0x00, 0xEE], .step, .step, .takeRedraw, .step]

theorem copied_unless_due_drawing :
    let watched := (create (Random.ofSeed 0)).performAll drawing
    watched.copy = some watched.cells ∧ watched.cells.bytes[0] = 1 ∧
      ¬watched.machine.Redraws .step := by
  intro watched
  rcases copied_unless_due (Random.ofSeed 0) drawing with ⟨same, copied, cells, redraws⟩
  have clear : ((Machine.create (Random.ofSeed 0)).machine.performAll drawing).screen.redraw =
      false := by
    decide +kernel
  refine ⟨copied clear, (cells 0 (by decide)).2.mpr (by decide +kernel), ?_⟩
  have halted : ((Machine.create (Random.ofSeed 0)).machine.performAll drawing |>.perform
      .step).machine.screen.redraw = false := by
    decide +kernel
  rw [same, ← redraws .step clear, halted]
  exact Bool.false_ne_true

end Watched

end ChipEight
