import ChipEight.Proofs.Calls
import ChipEight.Proofs.Footprint
import ChipEight.Proofs.History

/-!
# Timers count steps

Both timers lose one in each successful step until nothing is left, also in the step that sets them
and in the steps that wait for a key.  So what a timer has left after a run follows from the number
of its steps alone, counted from the last one that set the timer.

The step lemma comes from the footprint of the step.  The run lemma follows by an induction over the
actions, in which the keypad and the redraw flag do not count.
-/

namespace ChipEight

/-- The two counters of the machine. -/
inductive Timer where
  | delay
  | sound

namespace Timer

/-- The pattern of the words that set the timer to a register. -/
def pattern : Timer → String
  | .delay => "Fx15"
  | .sound => "Fx18"

/-- How many steps the timer has left. -/
def left (machine : Machine) : Timer → Nat
  | .delay => machine.delay.toNat
  | .sound => machine.sound.toNat

end Timer

namespace Machine

/-- Every step of the run succeeds, and the host only uses the keypad and the redraw flag. -/
def Succeeds : Machine → List Action → Prop
  | _, [] => True
  | machine, action :: rest =>
      action.continues = true ∧ (machine.perform action).result = .ok () ∧
        Succeeds (machine.perform action).machine rest

instance decidableSucceeds :
    (machine : Machine) → (actions : List Action) → Decidable (machine.Succeeds actions)
  | _, [] => inferInstanceAs (Decidable True)
  | machine, action :: rest =>
      have := decidableSucceeds (machine.perform action).machine rest
      inferInstanceAs (Decidable (action.continues = true ∧
        (machine.perform action).result = .ok () ∧
          Succeeds (machine.perform action).machine rest))

/-- The steps among some actions. -/
def stepCount : List Action → Nat
  | [] => 0
  | .step :: rest => stepCount rest + 1
  | _ :: rest => stepCount rest

/-- The step of a run, by its number from one, that set a timer last, and the byte it set. -/
def LastSet (timer : Timer) (machine : Machine) (actions : List Action) (number : Nat)
    (byte : UInt8) : Prop :=
  ∃ before after word, actions = before ++ .step :: after ∧ number = stepCount before + 1 ∧
    (machine.performAll before).fetch? = some word ∧ word.Matches timer.pattern ∧
      byte = (machine.performAll before).registers.get word.x ∧
        Lasts (Executes timer.pattern) (machine.performAll before).step.machine after

theorem succeeds_append_iff (machine : Machine) (first second : List Action) :
    machine.Succeeds (first ++ second) ↔
      machine.Succeeds first ∧ (machine.performAll first).Succeeds second := by
  induction first generalizing machine with
  | nil => exact ⟨fun later => ⟨trivial, later⟩, And.right⟩
  | cons action rest later =>
      rw [List.cons_append, performAll_cons]
      simp only [Succeeds, later, and_assoc]

theorem stepCount_append (first second : List Action) :
    stepCount (first ++ second) = stepCount first + stepCount second := by
  induction first with
  | nil => exact (Nat.zero_add _).symm
  | cons action rest later =>
      cases action with
      | step =>
          show stepCount (rest ++ second) + 1 = stepCount rest + 1 + stepCount second
          rw [later, Nat.add_right_comm]
      | _ => exact later

/-! ## One step -/

section Step

variable {machine : Machine} {word : Word}

/-- A step takes one from what the timer had, or from the register that it is set to. -/
theorem left_step (timer : Timer) (succeeded : machine.step.result = .ok ())
    (fetched : machine.fetch? = some word) :
    timer.left machine.step.machine =
      (if word.Matches timer.pattern then (machine.registers.get word.x).toNat
        else timer.left machine) - 1 := by
  have footprint : Footprint machine word machine.step.machine := footprint_step succeeded fetched
  cases timer with
  | delay => exact footprint.delay.trans (congrArg (· - 1) (apply_ite UInt8.toNat _ _ _))
  | sound => exact footprint.sound.trans (congrArg (· - 1) (apply_ite UInt8.toNat _ _ _))

/-- A successful step that does not set a timer counts it down. -/
theorem left_step_of_not_executes {timer : Timer} (succeeded : machine.step.result = .ok ())
    (unset : ¬ machine.Executes timer.pattern .step) :
    timer.left machine.step.machine = timer.left machine - 1 := by
  rcases fetched_of_step_ok succeeded with ⟨word, fetched⟩
  rw [executes_step_iff succeeded fetched] at unset
  rw [left_step timer succeeded fetched, if_neg unset]

/-- The delay is read before it counts down. -/
theorem get_step_of_readDelay (succeeded : machine.step.result = .ok ())
    (fetched : machine.fetch? = some word) (reads : word.Matches "Fx07") :
    machine.step.machine.registers.get word.x = machine.delay := by
  rcases carried_of_step_ok succeeded fetched with ⟨instruction, decoded, _, carried⟩
  rw [(word.matches_iff "Fx07" (.readDelay word.x)).mp reads] at decoded
  cases decoded
  rw [carried]
  show (machine.execute (.readDelay word.x)).registers.get word.x = machine.delay
  rw [execute_registers]
  simp [setRegister]

/-- A step that waits for a key counts the timers down and tells nothing but its fetch. -/
theorem step_eq_of_waiting (fetches : machine.Fetches word) (waits : word.Matches "Fx0A")
    (released : ∀ key, machine.keypad.isDown key = false) :
    machine.step = ⟨machine.tick, .ok (), [.fetched machine.pc word]⟩ := by
  have quiet : machine.keypad.first? = none :=
    Option.not_isSome_iff_eq_none.mp fun down => (first?_isSome_iff _).mp down released
  have decoded := (word.matches_iff "Fx0A" (.waitKey word.x)).mp waits
  rw [step_eq_of_fetches fetches decoded rfl, execute,
    executionNotices, quiet]

/-- A wait that nobody answers succeeds and only counts down. -/
theorem step_of_waiting (fetches : machine.Fetches word) (waits : word.Matches "Fx0A")
    (released : ∀ key, machine.keypad.isDown key = false) :
    machine.step.result = .ok () ∧ machine.step.machine = machine.tick := by
  rw [step_eq_of_waiting fetches waits released]
  exact ⟨rfl, rfl⟩

theorem left_step_of_fault (timer : Timer) {fault : Fault}
    (failed : machine.step.result = .error fault) :
    timer.left machine.step.machine = timer.left machine := by
  rw [step_machine_of_fault failed]
  cases timer <;> rfl

end Step

/-! ## A run -/

section Run

variable {machine : Machine} {actions : List Action} {timer : Timer}

/-- A timer that no step of a run sets loses one in each of them. -/
theorem left_performAll_of_lasts (succeeds : machine.Succeeds actions)
    (unset : Lasts (Executes timer.pattern) machine actions) :
    timer.left (machine.performAll actions) = timer.left machine - stepCount actions := by
  induction actions generalizing machine with
  | nil => rfl
  | cons action rest later =>
      rcases succeeds with ⟨continues, succeeded, remaining⟩
      rcases unset with ⟨first, unset⟩
      rw [performAll_cons, later remaining unset]
      cases action with
      | step =>
          have once : timer.left (machine.perform .step).machine = timer.left machine - 1 :=
            left_step_of_not_executes succeeded first
          rw [once, Nat.sub_sub]
          exact congrArg (timer.left machine - ·) (Nat.add_comm 1 (stepCount rest))
      | key change => cases timer <;> rfl
      | takeRedraw => cases timer <;> rfl
      | load program => cases continues
      | reset => cases continues

/-- A timer that was set in a run counts from the last step that set it, and that step counts. -/
theorem left_performAll_of_lastSet (succeeds : machine.Succeeds actions) {number : Nat}
    {byte : UInt8} (set : LastSet timer machine actions number byte) :
    timer.left (machine.performAll actions) =
      byte.toNat - (stepCount actions - number + 1) := by
  rcases set with ⟨before, after, word, rfl, rfl, fetched, sets, rfl, unset⟩
  rcases ((succeeds_append_iff machine before _).mp succeeds).2 with ⟨_, succeeded, remaining⟩
  have setting : timer.left (machine.performAll before).step.machine =
      ((machine.performAll before).registers.get word.x).toNat - 1 := by
    rw [left_step timer succeeded fetched, if_pos sets]
  have following : stepCount (before ++ .step :: after) - (stepCount before + 1) =
      stepCount after := by
    rw [stepCount_append, Nat.add_sub_add_left]
    exact Nat.add_sub_cancel (stepCount after) 1
  calc
    timer.left (machine.performAll (before ++ .step :: after)) =
        timer.left ((machine.performAll before).step.machine.performAll after) := by
      rw [performAll_append]
      rfl
    _ = timer.left (machine.performAll before).step.machine - stepCount after :=
      left_performAll_of_lasts remaining unset
    _ = ((machine.performAll before).registers.get word.x).toNat - (stepCount after + 1) := by
      rw [setting, Nat.sub_sub, Nat.add_comm]
    _ = _ := by rw [following]

/-- Either no step of a run sets the timer, or one of them is the last to do so. -/
theorem lasts_or_lastSet (timer : Timer) (machine : Machine) (actions : List Action) :
    Lasts (Executes timer.pattern) machine actions ∨
      ∃ number byte, 1 ≤ number ∧ number ≤ stepCount actions ∧
        LastSet timer machine actions number byte := by
  rcases lasts_or_exists_last (Executes timer.pattern) machine actions with
    unset | ⟨before, action, after, rfl, sets, unset⟩
  · exact Or.inl unset
  · right
    cases action with
    | step =>
        rcases sets with ⟨_, word, fetched, fits⟩
        refine ⟨stepCount before + 1, (machine.performAll before).registers.get word.x,
          Nat.le_add_left _ _, ?_, before, after, word, rfl, rfl, fetched, fits, rfl, unset⟩
        rw [stepCount_append]
        exact Nat.add_le_add_left (Nat.le_add_left _ _) _
    | load program => cases sets
    | reset => cases sets
    | key change => cases sets
    | takeRedraw => cases sets

end Run

/--
The timers count steps.  After a run of successful steps, between which the host may use the keypad
and the redraw flag, a timer that was not set has lost one a step; otherwise it has lost one for the
last step that set it, from the register it was set to, and one for each later step.  A word that
reads the delay gets what the steps before it have left.  A step that waits for a key succeeds and
counts both timers down; a step that fails leaves both as they are.
-/
theorem timers_count_steps (machine : Machine) :
    (∀ actions, machine.Succeeds actions →
      (∀ timer : Timer,
        (Lasts (Executes timer.pattern) machine actions →
          timer.left (machine.performAll actions) = timer.left machine - stepCount actions) ∧
        (∀ number byte, LastSet timer machine actions number byte →
          timer.left (machine.performAll actions) =
            byte.toNat - (stepCount actions - number + 1)) ∧
        (Lasts (Executes timer.pattern) machine actions ∨
          ∃ number byte, 1 ≤ number ∧ number ≤ stepCount actions ∧
            LastSet timer machine actions number byte)) ∧
      ∀ before after word, actions = before ++ .step :: after →
        (machine.performAll before).fetch? = some word → word.Matches "Fx07" →
          (machine.performAll (before ++ [.step])).registers.get word.x =
            (machine.performAll before).delay) ∧
    (∀ word, machine.Fetches word → word.Matches "Fx0A" →
      (∀ key, machine.keypad.isDown key = false) →
        machine.step.result = .ok () ∧ machine.step.machine.pc = machine.pc ∧
          ∀ timer : Timer, timer.left machine.step.machine = timer.left machine - 1) ∧
    ∀ fault, machine.step.result = .error fault →
      ∀ timer : Timer, timer.left machine.step.machine = timer.left machine := by
  refine ⟨?_, ?_, fun fault failed timer => left_step_of_fault timer failed⟩
  · intro actions succeeds
    constructor
    · intro timer
      exact ⟨left_performAll_of_lasts succeeds, fun _ _ => left_performAll_of_lastSet succeeds,
        lasts_or_lastSet timer machine actions⟩
    · rintro before after word rfl fetched reads
      have succeeded := ((succeeds_append_iff machine before _).mp succeeds).2.2.1
      rw [performAll_append]
      exact get_step_of_readDelay succeeded fetched reads
  · intro word fetches waits released
    rcases step_of_waiting fetches waits released with ⟨succeeded, waited⟩
    rw [waited]
    refine ⟨succeeded, rfl, ?_⟩
    intro timer
    cases timer with
    | delay => exact toNat_countDown machine.delay
    | sound => exact toNat_countDown machine.sound

/-- A machine about to set its delay to five, read it and wait for a key. -/
def timing : Machine :=
  (create (Random.ofSeed 0)).machine.performAll
    [.load #[0x60, 0x05, 0xF0, 0x15, 0xF2, 0x07, 0xF1, 0x0A]]

/-- Three steps, one of which sets the delay, and two in which the machine waits. -/
def timedRun : List Action :=
  [.step, .step, .takeRedraw, .step, .key (.release 3), .step, .step]

/-- A machine that waits for a key. -/
def waiting : Machine :=
  timing.performAll (timedRun.take 4)

/-- The machine whose wait a key has ended, at the end of its program. -/
def exhausted : Machine :=
  waiting.performAll [.key (.press 1), .step]

/-- Of a delay of five, each step since takes one, those of the wait included and the fault left
out. -/
theorem timers_count_steps_timing :
    Timer.delay.left (timing.performAll timedRun) = 1 ∧
      Timer.sound.left (timing.performAll timedRun) = 0 ∧
      waiting.registers.get 2 = 4 ∧ waiting.step.machine.pc = waiting.pc ∧
      Timer.delay.left exhausted.step.machine = 2 := by
  have succeeds : timing.Succeeds timedRun := by decide +kernel
  have silent : Lasts (Executes Timer.sound.pattern) timing timedRun := by decide +kernel
  have set : LastSet .delay timing timedRun 2 5 :=
    ⟨[.step], timedRun.drop 2, ⟨0xF015⟩, rfl, rfl, by decide +kernel, by decide +kernel,
      by decide +kernel, by decide +kernel⟩
  rcases timers_count_steps timing with ⟨runs, _, _⟩
  rcases runs timedRun succeeds with ⟨counts, reads⟩
  have read := reads [.step, .step, .takeRedraw] (timedRun.drop 4) ⟨0xF207⟩ rfl
    (by decide +kernel) (by decide +kernel)
  have delay : (timing.performAll [.step, .step, .takeRedraw]).delay = 4 := by decide +kernel
  have fetches : waiting.Fetches ⟨0xF10A⟩ := by decide +kernel
  rcases timers_count_steps waiting with ⟨_, waits, _⟩
  rcases waits ⟨0xF10A⟩ fetches (by decide) (by decide +kernel) with ⟨_, stays, _⟩
  have failed : exhausted.step.result = .error (.unknownWord ⟨0⟩ 0x208) := by decide +kernel
  have left : Timer.delay.left exhausted = 2 := by decide +kernel
  rcases timers_count_steps exhausted with ⟨_, _, fails⟩
  exact ⟨(counts .delay).2.1 2 5 set, (counts .sound).1 silent, read.trans delay, stays,
    (fails _ failed .delay).trans left⟩

end Machine

end ChipEight
