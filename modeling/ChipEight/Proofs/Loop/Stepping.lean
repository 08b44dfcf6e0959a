import ChipEight.Proofs.Loop.Turn
import ChipEight.Proofs.Reachable

/-!
# The loop steps the machine as a run does

Whatever the host does, a loop makes of its machine what plain steps make of it when the keypad is
given, before each of them, the mask that the loop took in that turn.  Without masks this is a run
of as many steps as succeeded, and a loop that fails does so with the fault of every longer run.  A
run of some steps and then some more is one run of the sum, so it does not matter at which turn one
looks.

The two machines differ in the redraw flag only, which the loop clears each turn and a run does not.
That they do is the invariant of the inductions over the turns; it is kept because the flag does not
feed back into the steps.
-/

namespace ChipEight

/-! ## Runs in parts -/

namespace Machine

@[simp]
theorem run_zero (machine : Machine) : machine.run 0 = ⟨⟨machine, .ok (), []⟩, 0⟩ :=
  rfl

theorem run_succ_of_error
    {machine : Machine} {fault : Fault} (failed : machine.step.result = .error fault)
    (count : Nat) : machine.run (count + 1) = ⟨machine.step, 0⟩ := by
  simp [run, runUntil, failed]

theorem run_succ_of_ok
    {machine : Machine} (succeeded : machine.step.result = .ok ()) (count : Nat) :
    machine.run (count + 1) =
      ⟨{ (machine.step.machine.run count).outcome with
          notices := machine.step.notices ++
            (machine.step.machine.run count).outcome.notices },
        (machine.step.machine.run count).steps + 1⟩ := by
  simp [run, runUntil, succeeded]

/-- A run and, unless it failed, another from where it ended. -/
def Run.andThen (first : Run) (later : Machine → Run) : Run :=
  match first.outcome.result with
  | .error _ => first
  | .ok () =>
      let second := later first.outcome.machine
      ⟨{ second.outcome with notices := first.outcome.notices ++ second.outcome.notices },
        first.steps + second.steps⟩

/-- A run of a sum is a run of the first part and then, unless it failed, of the second. -/
theorem run_add (machine : Machine) (first second : Nat) :
    machine.run (first + second) = (machine.run first).andThen (·.run second) := by
  induction first generalizing machine with
  | zero => simp [Run.andThen]
  | succ first later =>
      rw [Nat.succ_add]
      cases result : machine.step.result with
      | error fault =>
          rw [run_succ_of_error result, run_succ_of_error result]
          simp [Run.andThen, result]
      | ok =>
          rw [run_succ_of_ok result, run_succ_of_ok result, later]
          cases ended : (machine.step.machine.run first).outcome.result with
          | error fault => simp [Run.andThen, ended]
          | ok => simp [Run.andThen, ended, Nat.add_right_comm]

end Machine

/-- A step after the keypad was given a mask, if there is one. -/
def Machine.maskedStep (mask? : Option UInt16) : List Machine.Action :=
  mask?.toList.map (fun bits => .key (.replace bits)) ++ [.step]

/-- Writing a drained mask and stepping is a step with that mask on the keypad. -/
theorem Machine.performAll_maskedStep (machine : Machine) (mask? : Option UInt16) :
    machine.performAll (maskedStep mask?) = (machine.withMask mask?).step.machine := by
  cases mask? <;> rfl

theorem Machine.SameExceptRedraw.withMask
    {first second : Machine} (same : first.SameExceptRedraw second) (mask? : Option UInt16) :
    (first.withMask mask?).SameExceptRedraw (second.withMask mask?) := by
  rw [same]
  rfl

namespace Emulator

/-- The masks that the turns of a loop take, one entry for each turn. -/
def drainedMasks (emulator : Emulator) (schedule : List Arrivals) : List (Option UInt16) :=
  emulator.gather (fun emulator arrivals => [(emulator.receive arrivals.beforeKeys).latestMask?])
    schedule

/-! ## Turns that all go on -/

/-- A turn after which the loop goes on makes a successful step of the machine that it is ready
with. -/
theorem turn_sameExceptRedraw
    {emulator : Emulator} {arrivals : Arrivals} {machine : Machine}
    (same : (emulator.ready arrivals).machine.SameExceptRedraw machine)
    (running : (emulator.turn arrivals).progress = .running) :
    machine.step.result = .ok () ∧
      (emulator.turn arrivals).emulator.machine.SameExceptRedraw machine.step.machine := by
  rcases step_of_turn_running running with ⟨continues, succeeded⟩
  rcases same.step with ⟨sameResult, sameStep⟩
  rw [machine_turn_of_step continues succeeded]
  exact ⟨sameResult.symm.trans succeeded, sameStep.withRedraw false⟩

/-- A loop that is still running stepped once in each turn, with the mask it drained there. -/
theorem turns_sameExceptRedraw
    {emulator : Emulator} {machine : Machine} (same : emulator.machine.SameExceptRedraw machine)
    {schedule : List Arrivals} (running : (emulator.turns schedule).progress = .running) :
    (emulator.drainedMasks schedule).length = schedule.length ∧
      (emulator.steppedMachines schedule).length = schedule.length ∧
      (emulator.turns schedule).emulator.machine.SameExceptRedraw
        (machine.performAll ((emulator.drainedMasks schedule).flatMap Machine.maskedStep)) := by
  induction schedule generalizing emulator machine with
  | nil => exact ⟨rfl, rfl, same⟩
  | cons arrivals rest later =>
      have first := turn_running_of_turns_running running
      rcases step_of_turn_running first with ⟨continues, succeeded⟩
      have sameReady := same.withMask (emulator.receive arrivals.beforeKeys).latestMask?
      rw [← machine_ready] at sameReady
      rw [turns_cons_of_running first] at running ⊢
      rw [drainedMasks, steppedMachines, gather_cons_of_running _ first,
        gather_cons_of_running _ first, stepOf_of_step continues succeeded, List.singleton_append,
        List.singleton_append, List.flatMap_cons, Machine.performAll_append,
        Machine.performAll_maskedStep]
      rcases later (turn_sameExceptRedraw sameReady first).2 running with ⟨masks, steps, agree⟩
      exact ⟨congrArg Nat.succ masks, congrArg Nat.succ steps, agree⟩

/-! ## Loops that end, without masks -/

/--
A loop that made so many successful steps came to what a run comes to: if it stopped, a run of as
many steps, and if it failed, every longer run.
-/
structure AgreesWithRun (made : Turn) (steps : Nat) (machine : Machine) : Prop where
  stopped : made.progress = .stopped →
    (machine.run steps).outcome.result = .ok () ∧
      made.emulator.machine.SameExceptRedraw (machine.run steps).outcome.machine
  failed : ∀ fault, made.progress = .failed fault → ∀ count, steps < count →
    (machine.run count).outcome.result = .error fault ∧
      made.emulator.machine.SameExceptRedraw (machine.run count).outcome.machine

/-- A successful step before both keeps the agreement. -/
theorem AgreesWithRun.afterStep
    {made : Turn} {steps : Nat} {machine : Machine}
    (agrees : AgreesWithRun made steps machine.step.machine)
    (succeeded : machine.step.result = .ok ()) (notices : List Notice) :
    AgreesWithRun { made with notices := notices } (steps + 1) machine where
  stopped ended := by
    rw [Machine.run_succ_of_ok succeeded]
    exact agrees.stopped ended
  failed fault ended count longer := by
    cases count with
    | zero => cases longer
    | succ count =>
        rw [Machine.run_succ_of_ok succeeded]
        exact agrees.failed fault ended count (Nat.lt_of_succ_lt_succ longer)

/-- The turn in which a loop ends agrees with a run of its machine. -/
theorem turn_agreesWithRun
    {emulator : Emulator} {arrivals : Arrivals} {machine : Machine}
    (same : (emulator.ready arrivals).machine.SameExceptRedraw machine) :
    AgreesWithRun (emulator.turn arrivals) (emulator.stepOf arrivals).length machine := by
  cases quits : (emulator.ready arrivals).wantsQuit with
  | true =>
      rcases turn_of_wantsQuit quits with ⟨progress, kept, _⟩
      rw [stepOf_of_wantsQuit quits]
      constructor
      · intro _
        rw [kept]
        exact ⟨rfl, same⟩
      · intro fault failed
        rw [progress] at failed
        cases failed
  | false =>
      rcases same.step with ⟨sameResult, sameStep⟩
      cases result : (emulator.ready arrivals).machine.step.result with
      | error fault =>
          rcases turn_of_fault quits result with ⟨progress, stepped, _⟩
          rw [stepOf_of_fault result]
          constructor
          · intro stopped
            rw [progress] at stopped
            cases stopped
          · intro other failed count positive
            cases progress.symm.trans failed
            rw [← Nat.succ_pred_eq_of_pos positive,
              Machine.run_succ_of_error (sameResult.symm.trans result), stepped]
            exact ⟨sameResult.symm.trans result, sameStep⟩
      | ok =>
          rw [stepOf_of_step quits result]
          constructor
          · intro _
            rw [machine_turn_of_step quits result, List.length_singleton, ← Nat.zero_add 1,
              Machine.run_succ_of_ok (sameResult.symm.trans result)]
            exact ⟨rfl, sameStep.withRedraw false⟩
          · intro fault failed
            rw [(turn_of_step quits result).1, progress_present] at failed
            split at failed <;> cases failed

/-- No turn of the loop takes a mask. -/
def Silent (emulator : Emulator) (schedule : List Arrivals) : Prop :=
  ∀ mask? ∈ emulator.drainedMasks schedule, mask? = none

/-- A loop without messages steps as a run does, however it ends. -/
theorem turns_agreesWithRun
    {emulator : Emulator} {machine : Machine} (same : emulator.machine.SameExceptRedraw machine)
    {schedule : List Arrivals} (silent : emulator.Silent schedule) :
    AgreesWithRun (emulator.turns schedule) (emulator.steppedMachines schedule).length machine := by
  induction schedule generalizing emulator machine with
  | nil => exact ⟨nofun, nofun⟩
  | cons arrivals rest later =>
      have noMask : (emulator.receive arrivals.beforeKeys).latestMask? = none :=
        silent _ (List.mem_append_left _ (List.mem_singleton_self _))
      have sameReady : (emulator.ready arrivals).machine.SameExceptRedraw machine := by
        rw [machine_ready, noMask]
        exact same
      by_cases running : (emulator.turn arrivals).progress = .running
      · rcases step_of_turn_running running with ⟨continues, succeeded⟩
        have sameLater := turn_sameExceptRedraw sameReady running
        have silentLater : (emulator.turn arrivals).emulator.Silent rest := by
          intro mask? member
          apply silent
          rw [drainedMasks, gather_cons_of_running _ running]
          exact List.mem_append_right _ member
        rw [turns_cons_of_running running, steppedMachines, gather_cons_of_running _ running,
          stepOf_of_step continues succeeded]
        exact (later sameLater.2 silentLater).afterStep sameLater.1 _
      · rw [turns_cons_of_ended running, steppedMachines, gather_cons_of_ended _ running]
        exact turn_agreesWithRun sameReady

/-! ## Agreement -/

/--
The loop, a run and plain stepping agree, for every emulator, linked or not, and every schedule of
the host.

If the loop goes on after all turns of a schedule, then each of them made a successful step, and the
machine is, except for the redraw flag, the one that plain steps make of the same start, each after
the keypad was given the mask that its turn took.  The first turns of a schedule are themselves a
schedule, so this speaks of the machine after any number of turns.

If no turn takes a mask, a loop that stopped ends as a run of as many steps as it made, and that run
succeeds; a loop that failed ends as every longer run, with the same fault.

A run of a sum of steps is the run of the first summand and then, unless that failed, the run of the
second.
-/
theorem mainLoop_agrees_with_runs (emulator : Emulator) (schedule : List Arrivals) :
    let made := emulator.mainLoop schedule
    let steps := (emulator.steppedMachines schedule).length
    (made.progress = .running →
      steps = schedule.length ∧ (emulator.drainedMasks schedule).length = schedule.length ∧
        made.emulator.machine.SameExceptRedraw
          (emulator.machine.performAll
            ((emulator.drainedMasks schedule).flatMap Machine.maskedStep))) ∧
      (emulator.Silent schedule →
        (made.progress = .stopped →
          (emulator.runCycles steps).2.outcome.result = .ok () ∧
            made.emulator.machine.SameExceptRedraw (emulator.runCycles steps).1.machine) ∧
        ∀ fault, made.progress = .failed fault → ∀ count, steps + 1 ≤ count →
          (emulator.runCycles count).2.outcome.result = .error fault ∧
            made.emulator.machine.SameExceptRedraw (emulator.runCycles count).1.machine) ∧
      ∀ first second,
        let before := emulator.runCycles first
        let whole := emulator.runCycles (first + second)
        match before.2.outcome.result with
        | .ok () =>
            whole.1 = (before.1.runCycles second).1 ∧
              whole.2.outcome.result = (before.1.runCycles second).2.outcome.result
        | .error fault => whole.1 = before.1 ∧ whole.2.outcome.result = .error fault := by
  have same : emulator.machine.SameExceptRedraw emulator.machine := .refl emulator.machine
  refine ⟨?_, ?_, ?_⟩
  · intro running
    rcases turns_sameExceptRedraw same running with ⟨masks, steps, agree⟩
    exact ⟨steps, masks, agree⟩
  · intro silent
    have agrees := turns_agreesWithRun same silent
    exact ⟨agrees.stopped, fun fault failed count longer => agrees.failed fault failed count longer⟩
  · intro first second
    simp only [runCycles, Machine.run_add, Machine.Run.andThen]
    split
    case h_1 succeeded => simp [succeeded]
    case h_2 fault failed => simp [failed]

/-- A linked emulator whose program clears the screen and then meets a word that is no
instruction. -/
def clearing : Emulator :=
  (create ((Machine.create (Random.ofSeed 0)).machine.load #[0x00, 0xE0, 0x00, 0x00]).machine
    Settings.default).connect

/-- Two masks that arrive before the first turn. -/
def pressing : List Arrivals :=
  [⟨[.postKeys 1, .postKeys 8], [], []⟩]

/-- A request to quit that arrives in the second turn. -/
def quitting : List Arrivals :=
  [.none, ⟨[], [.postQuit false], []⟩]

/-- A loop with a mask and one that is told to quit agree with runs, and a run of more steps finds
the fault. -/
theorem mainLoop_agrees_with_runs_clearing :
    (clearing.mainLoop pressing).emulator.machine.SameExceptRedraw
        (clearing.machine.performAll [.key (.replace 8), .step]) ∧
      (clearing.mainLoop quitting).emulator.machine.SameExceptRedraw
        (clearing.runCycles 1).1.machine ∧
      (clearing.runCycles 7).2.outcome.result = .error (.unknownWord ⟨0⟩ 0x202) := by
  have pressed := (mainLoop_agrees_with_runs clearing pressing).1 (by decide +kernel)
  have masks : clearing.drainedMasks pressing = [some 8] := by decide +kernel
  have quitMasks : clearing.drainedMasks quitting = [none, none] := by decide +kernel
  have silentQuit : clearing.Silent quitting := by
    rw [Silent, quitMasks]
    simp
  have stopped :=
    ((mainLoop_agrees_with_runs clearing quitting).2.1 silentQuit).1 (by decide +kernel)
  have quitSteps : (clearing.steppedMachines quitting).length = 1 := by decide +kernel
  have faultMasks : clearing.drainedMasks [.none, .none] = [none, none] := by decide +kernel
  have silentFault : clearing.Silent [.none, .none] := by
    rw [Silent, faultMasks]
    simp
  have failed : (clearing.mainLoop [.none, .none]).progress =
      .failed (.unknownWord ⟨0⟩ 0x202) := by
    decide +kernel
  have faultSteps : (clearing.steppedMachines [.none, .none]).length = 1 := by decide +kernel
  have fails := ((mainLoop_agrees_with_runs clearing [.none, .none]).2.1 silentFault).2 _ failed 7
  rw [masks] at pressed
  rw [quitSteps] at stopped
  rw [faultSteps] at fails
  exact ⟨pressed.2.2, stopped.2, (fails (by decide)).1⟩

end Emulator

end ChipEight
