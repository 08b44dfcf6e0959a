import ChipEight.Proofs.KeypadMask
import ChipEight.Proofs.Log
import ChipEight.Proofs.Timers

/-!
# Waiting for a key

A machine that waits for a key carries the same word out again and again.  As long as every step
finds all keys up, whatever the host does to the keypad between them, only the timers change and
only the fetches are told.  The first step that finds a key down stores the lowest one and goes on,
as it would have done at once.

Between two steps the keypad counts for nothing but its state at the next one, so a key that is
pressed and released again was never there.
-/

namespace ChipEight

/-- A key that was up is up again after it was pressed and released, and no other key changed. -/
theorem Keypad.release_press
    {keypad : Keypad} {byte : UInt8} (up : keypad.isDown (Key.ofByte byte) = false) :
    (keypad.apply (.press byte)).apply (.release byte) = keypad := by
  apply Keypad.ext_isDown
  intro key
  rw [Keypad.apply, Keypad.apply, isDown_assign, isDown_assign]
  split
  case isTrue same => rw [← same, up]
  case isFalse => rfl

namespace Machine

/-! ## What a wait is -/

/-- A step that finds a key down, or anything that the host does but the use of the keypad. -/
def Disturbs (machine : Machine) : Action → Prop
  | .step => ∃ key, machine.keypad.isDown key = true
  | .key _ => False
  | .load _ | .reset | .takeRedraw => True

instance (machine : Machine) : (action : Action) → Decidable (machine.Disturbs action)
  | .step => inferInstanceAs (Decidable (∃ key, machine.keypad.isDown key = true))
  | .key _ => inferInstanceAs (Decidable False)
  | .load _ | .reset | .takeRedraw => inferInstanceAs (Decidable True)

/-- What some actions do to the keypad. -/
def keyChanges : List Action → List Keypad.Change
  | [] => []
  | .key change :: rest => change :: keyChanges rest
  | _ :: rest => keyChanges rest

/-- Two runs of the machine end with the same machine and tell the same. -/
def SameRun (machine : Machine) (first second : List Action) : Prop :=
  machine.performAll first = machine.performAll second ∧ machine.told first = machine.told second

/-- A timer that counted down so many times. -/
def elapse (timer : UInt8) (count : Nat) : UInt8 :=
  UInt8.ofNat (timer.toNat - count)

/-- The machine after so many steps of a wait, with the keypad that the host made meanwhile. -/
def waited (machine : Machine) (count : Nat) (keypad : Keypad) : Machine :=
  { machine with
    delay := elapse machine.delay count
    sound := elapse machine.sound count
    keypad := keypad }

theorem toNat_elapse (timer : UInt8) (count : Nat) :
    (elapse timer count).toNat = timer.toNat - count :=
  UInt8.toNat_ofNat_of_lt' (Nat.lt_of_le_of_lt (Nat.sub_le _ _) timer.toNat_lt)

theorem elapse_zero (timer : UInt8) : elapse timer 0 = timer :=
  UInt8.ofNat_toNat

theorem elapse_elapse (timer : UInt8) (first second : Nat) :
    elapse (elapse timer first) second = elapse timer (first + second) := by
  rw [elapse, toNat_elapse, Nat.sub_sub, elapse]

theorem countDown_eq_elapse (timer : UInt8) : countDown timer = elapse timer 1 := by
  apply UInt8.toNat_inj.mp
  rw [toNat_countDown, toNat_elapse]

theorem waited_zero (machine : Machine) : machine.waited 0 machine.keypad = machine := by
  rw [waited, elapse_zero, elapse_zero]

/-- Waiting twice is waiting for the sum, with the last keypad. -/
theorem waited_waited (machine : Machine) (first second : Nat) (before keypad : Keypad) :
    (machine.waited first before).waited second keypad =
      machine.waited (first + second) keypad := by
  simp only [waited, elapse_elapse]

theorem tick_eq_waited (machine : Machine) : machine.tick = machine.waited 1 machine.keypad := by
  simp only [tick, waited, countDown_eq_elapse]

/-! ## One step -/

section Step

variable {machine : Machine} {word : Word}

/-- A step that does not disturb a wait finds no key down. -/
theorem released_of_not_disturbs (undisturbed : ¬ machine.Disturbs .step) :
    ∀ key, machine.keypad.isDown key = false :=
  fun key => Bool.eq_false_iff.mpr fun down => undisturbed ⟨key, down⟩

/-- A step that finds a key down stores the lowest one and tells so. -/
theorem step_of_answered
    {key : Key} (fetches : machine.Fetches word) (waits : word.Matches "Fx0A")
    (lowest : machine.keypad.first? = some key) :
    machine.step =
      ⟨{ machine.tick with
          pc := machine.pc + 2
          registers := machine.registers.set word.x (UInt8.ofNat key.val) },
        .ok (), [.fetched machine.pc word, .waitEnded key machine.pc]⟩ := by
  have decoded := (word.matches_iff "Fx0A" (.waitKey word.x)).mp waits
  rw [step_eq_of_fetches fetches decoded rfl, execute,
    executionNotices, lowest]
  rfl

/-- The end of a wait does not depend on how long it was, except for the timers. -/
theorem step_waited_of_answered
    {key : Key} {count : Nat} {keypad : Keypad} (fetches : machine.Fetches word)
    (waits : word.Matches "Fx0A") (lowest : keypad.first? = some key) :
    (machine.waited count keypad).step =
      ⟨{ machine.waited (count + 1) keypad with
          pc := machine.pc + 2
          registers := machine.registers.set word.x (UInt8.ofNat key.val) },
        .ok (), [.fetched machine.pc word, .waitEnded key machine.pc]⟩ := by
  have there : (machine.waited count keypad).Fetches word := fetches
  rw [step_of_answered there waits lowest, tick_eq_waited, waited_waited]
  rfl

end Step

/-! ## Between two steps -/

section Traffic

variable (machine : Machine)

theorem performAll_map_key (changes : List Keypad.Change) :
    machine.performAll (changes.map Action.key) =
      { machine with keypad := changes.foldl Keypad.apply machine.keypad } := by
  induction changes generalizing machine with
  | nil => rfl
  | cons change rest later =>
      rw [List.map_cons, performAll_cons, later]
      rfl

theorem told_map_key (changes : List Keypad.Change) :
    machine.told (changes.map Action.key) = [] := by
  induction changes generalizing machine with
  | nil => rfl
  | cons change rest later =>
      rw [List.map_cons, told_cons]
      exact later _

/-- What the host does to the keypad counts only through the keypad that it leaves. -/
theorem sameRun_of_keys
    (before after : List Action) (first second : List Keypad.Change)
    (same : first.foldl Keypad.apply (machine.performAll before).keypad =
      second.foldl Keypad.apply (machine.performAll before).keypad) :
    machine.SameRun (before ++ first.map Action.key ++ after)
      (before ++ second.map Action.key ++ after) := by
  have reached : machine.performAll (before ++ first.map Action.key) =
      machine.performAll (before ++ second.map Action.key) := by
    rw [performAll_append, performAll_append, performAll_map_key, performAll_map_key, same]
  have silent (changes : List Keypad.Change) :
      machine.told (before ++ changes.map Action.key) = machine.told before := by
    rw [told_append, told_map_key, List.append_nil]
  constructor
  · rw [performAll_append, reached, ← performAll_append]
  · rw [told_append machine (before ++ first.map Action.key), silent, reached,
      told_append machine (before ++ second.map Action.key), silent]

end Traffic

/-! ## A wait -/

section Wait

variable {machine : Machine} {word : Word}

/-- A wait that nothing disturbs succeeds step by step and only counts the timers down: after each
step the machine waits at the same word, with one step less to come. -/
theorem performAll_of_undisturbed
    (fetches : machine.Fetches word) (waits : word.Matches "Fx0A") {actions : List Action}
    (undisturbed : Lasts Disturbs machine actions) :
    machine.Succeeds actions ∧
      machine.performAll actions =
        machine.waited (stepCount actions)
          ((keyChanges actions).foldl Keypad.apply machine.keypad) ∧
      machine.told actions =
        List.replicate (stepCount actions) (.fetched machine.pc word) := by
  induction actions generalizing machine with
  | nil => exact ⟨trivial, (waited_zero machine).symm, rfl⟩
  | cons action rest later =>
      rcases undisturbed with ⟨first, remaining⟩
      cases action with
      | step =>
          have stepped := step_eq_of_waiting fetches waits (released_of_not_disturbs first)
          have carried : (machine.perform .step).machine = machine.tick :=
            congrArg Outcome.machine stepped
          have still : machine.tick.Fetches word := fetches
          rw [carried] at remaining
          rcases later still remaining with ⟨succeeds, whole, told⟩
          refine ⟨⟨rfl, congrArg Outcome.result stepped, carried.symm ▸ succeeds⟩, ?_, ?_⟩
          · rw [performAll_cons, carried, whole, tick_eq_waited, waited_waited, Nat.add_comm]
            rfl
          · rw [told_cons, carried, told]
            exact congrArg (· ++ _) (congrArg Outcome.notices stepped)
      | key change =>
          have still : (machine.perform (.key change)).machine.Fetches word := fetches
          rcases later still remaining with ⟨succeeds, whole, told⟩
          exact ⟨⟨rfl, rfl, succeeds⟩, whole, told⟩
      | load program => exact absurd trivial first
      | reset => exact absurd trivial first
      | takeRedraw => exact absurd trivial first

end Wait

/--
A wait for a key.  Take any machine that runs and is at such a word with all keys up.  Any number of
steps that find all keys up, with the keypad in use between them, succeed; they leave the machine as
it was but for the timers, which lose one in each step while something is left, and for what the
host does to the keypad, which is as before when all keys are up again; and they tell their fetches
only.  If a key is down after that, the next step succeeds, stores the lowest such key, goes on to
the next word, tells so, and changes nothing else but the timers.

Between two actions the keypad counts only through its last state, so it makes no difference to the
machine or to the log whether a key that was up is pressed and released again.
-/
theorem wait_for_key
    {machine : Machine} {word : Word} (fetches : machine.Fetches word)
    (waits : word.Matches "Fx0A") (released : ∀ key, machine.keypad.isDown key = false) :
    (∀ actions, Lasts Disturbs machine actions →
      let count := stepCount actions
      let keypad := (keyChanges actions).foldl Keypad.apply machine.keypad
      let later := machine.performAll actions
      (machine.Succeeds actions ∧ later = machine.waited count keypad ∧
        machine.told actions = List.replicate count (.fetched machine.pc word)) ∧
      ((∀ key, keypad.isDown key = false) → keypad = machine.keypad) ∧
      ((∃ key, keypad.isDown key = true) → ∃ key,
        (keypad.isDown key = true ∧ ∀ lower < key, keypad.isDown lower = false) ∧
        later.step =
          ⟨{ machine.waited (count + 1) keypad with
              pc := machine.pc + 2
              registers := machine.registers.set word.x (UInt8.ofNat key.val) },
            .ok (), [.fetched machine.pc word, .waitEnded key machine.pc]⟩ ∧
        later.step.machine.pc.toNat = machine.pc.toNat + 2)) ∧
    (∀ before after, ∀ first second : List Keypad.Change,
      first.foldl Keypad.apply (machine.performAll before).keypad =
          second.foldl Keypad.apply (machine.performAll before).keypad →
        machine.SameRun (before ++ first.map Action.key ++ after)
          (before ++ second.map Action.key ++ after)) ∧
    ∀ before after byte, (machine.performAll before).keypad.isDown (Key.ofByte byte) = false →
      machine.SameRun (before ++ [.key (.press byte), .key (.release byte)] ++ after)
        (before ++ after) := by
  refine ⟨?_, machine.sameRun_of_keys, ?_⟩
  · intro actions undisturbed count keypad later
    rcases performAll_of_undisturbed fetches waits undisturbed with ⟨succeeds, whole, told⟩
    refine ⟨⟨succeeds, whole, told⟩, ?_, ?_⟩
    · intro up
      exact Keypad.ext_isDown fun key => (up key).trans (released key).symm
    · rintro ⟨some, down⟩
      cases found : keypad.first? with
      | none =>
          rw [(keypad.first?_eq_none_iff).mp found some] at down
          cases down
      | some key =>
          have answered := (congrArg step whole).trans (step_waited_of_answered fetches waits found)
          refine ⟨key, (keypad.first?_eq_some_iff key).mp found, answered, ?_⟩
          have inside : machine.pc.toNat + (2 : UInt16).toNat < 0x10000 :=
            Nat.lt_of_le_of_lt (Nat.add_le_add_right fetches.2.1 2) (by decide)
          rw [show later.step = _ from answered]
          exact toNat_add_of_lt inside
  · intro before after byte up
    have same := machine.sameRun_of_keys before after [.press byte, .release byte] []
      (Keypad.release_press up)
    rwa [List.map_nil, List.append_nil] at same

/-- Two steps of a wait with a key pressed and released between them, and then two keys pressed. -/
def interlude : List Action :=
  [.step, .key (.press 3), .key (.release 3), .step, .key (.press 0xB), .key (.press 7)]

/-- A key that goes down and up again between two steps does not end the wait; of two that are down
at the next step, the lower one does. -/
theorem wait_for_key_waiting :
    waiting.Fetches ⟨0xF10A⟩ ∧ waiting.Succeeds interlude ∧
      waiting.told interlude = List.replicate 2 (.fetched waiting.pc ⟨0xF10A⟩) ∧
      (waiting.performAll interlude).step.machine.registers.get 1 = 7 := by
  have fetches : waiting.Fetches ⟨0xF10A⟩ := by decide +kernel
  have released : ∀ key, waiting.keypad.isDown key = false := by decide +kernel
  have undisturbed : Lasts Disturbs waiting interlude := by decide +kernel
  rcases wait_for_key fetches (by decide) released with ⟨waits, _, _⟩
  rcases waits interlude undisturbed with ⟨⟨succeeds, _, told⟩, _, ends⟩
  rcases ends ⟨7, by decide +kernel⟩ with ⟨key, ⟨down, lower⟩, answered, _⟩
  have first : ((keyChanges interlude).foldl Keypad.apply waiting.keypad).first? = some 7 := by
    decide +kernel
  have lowest : key = 7 :=
    Option.some.inj (((Keypad.first?_eq_some_iff _ key).mpr ⟨down, lower⟩).symm.trans first)
  have stored : (waiting.registers.set (Word.x ⟨0xF10A⟩) (UInt8.ofNat 7)).get 1 = 7 := by
    decide +kernel
  rw [lowest] at answered
  refine ⟨fetches, succeeds, told, ?_⟩
  rw [answered]
  exact stored

end Machine

end ChipEight
