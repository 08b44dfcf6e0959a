import ChipEight.Proofs.Footprint
import ChipEight.Proofs.Fresh
import ChipEight.Proofs.History
import ChipEight.Proofs.Redraw
import ChipEight.Proofs.Replies

/-!
# What the host does between the steps

A host looks after the screen and writes the keypad while a program runs.  Neither interferes with
the program.  A host that takes the redraw flag more often or less often changes nothing but the
flag, and a host that writes the keypad changes nothing but the keypad as long as the program asks
for no key.  A program that tests a key learns of that key and of no other.

Both noninterference laws compare two runs whose actions differ in noise, actions of one kind that
are inserted or left out.  `Unnoticed` says what one action has to satisfy for such noise to be lost
on the rest of the run, and `heard_eq_of_differ` is the induction over the two runs.
-/

namespace ChipEight

/-- The instruction asks for the state of the keypad. -/
def Instruction.readsKeys : Instruction → Bool
  | .skipIf (.keyDown _) | .skipIf (.keyUp _) | .waitKey _ => true
  | _ => false

namespace Machine

/-! ## Two runs that differ in noise -/

/-- The actions are the same, except for noise that is inserted or left out anywhere. -/
inductive DifferIn (noise : Action → Bool) : List Action → List Action → Prop where
  | nil : DifferIn noise [] []
  | both (action : Action) {first second : List Action} (rest : DifferIn noise first second) :
      DifferIn noise (action :: first) (action :: second)
  | inserted {action : Action} (noisy : noise action = true) {first second : List Action}
      (rest : DifferIn noise first second) : DifferIn noise (action :: first) second
  | leftOut {action : Action} (noisy : noise action = true) {first second : List Action}
      (rest : DifferIn noise first second) : DifferIn noise first (action :: second)

/-- The results of the actions of a run other than noise, with what each of them told. -/
def heard (noise : Action → Bool) :
    Machine → List Action → List (Except Fault Unit × List Notice) :=
  along fun machine action =>
    if noise action then []
    else [((machine.perform action).result, (machine.perform action).notices)]

/-- Two outcomes with the same result and the same notices, and machines that are related. -/
structure Outcome.Alike (Same : Machine → Machine → Prop) (first second : Outcome) : Prop where
  result : first.result = second.result
  notices : first.notices = second.notices
  machine : Same first.machine second.machine

/--
Noise keeps a relation between machines on either side, and any action keeps it on both sides at
once with the same result, unless the action listens to the noise.
-/
structure Unnoticed (noise : Action → Bool) (listens : Machine → Action → Prop)
    (Same : Machine → Machine → Prop) : Prop where
  inserted : ∀ {first second action}, noise action = true → Same first second →
    Same (first.perform action).machine second
  leftOut : ∀ {first second action}, noise action = true → Same first second →
    Same first (second.perform action).machine
  both : ∀ {first second action}, Same first second → ¬ listens first action →
    Outcome.Alike Same (first.perform action) (second.perform action)

/-- Noise is lost on a run in which nothing listens to it. -/
theorem heard_eq_of_differ
    {noise : Action → Bool} {listens : Machine → Action → Prop}
    {Same : Machine → Machine → Prop} (unnoticed : Unnoticed noise listens Same)
    {actions others : List Action} (differ : DifferIn noise actions others)
    {first second : Machine} (same : Same first second) (deaf : Lasts listens first actions) :
    first.heard noise actions = second.heard noise others ∧
      Same (first.performAll actions) (second.performAll others) := by
  induction differ generalizing first second with
  | nil => exact ⟨rfl, same⟩
  | both action rest later =>
      have alike := unnoticed.both same deaf.1
      rcases later alike.machine deaf.2 with ⟨heard, sameLater⟩
      refine ⟨?_, sameLater⟩
      rw [Machine.heard, along_cons, along_cons, alike.result, alike.notices]
      exact congrArg _ heard
  | inserted noisy rest later =>
      rcases later (unnoticed.inserted noisy same) deaf.2 with ⟨heard, sameLater⟩
      refine ⟨?_, sameLater⟩
      rw [Machine.heard, along_cons, if_pos noisy]
      exact heard
  | leftOut noisy rest later =>
      rcases later (unnoticed.leftOut noisy same) deaf with ⟨heard, sameLater⟩
      refine ⟨?_, sameLater⟩
      rw [heard, Machine.heard, along_cons, if_pos noisy]
      rfl

/-- Nothing ends what no action ends. -/
theorem lasts_of_never {ends : Machine → Action → Prop}
    (never : ∀ machine action, ¬ ends machine action) (machine : Machine)
    (actions : List Action) : Lasts ends machine actions := by
  induction actions generalizing machine with
  | nil => trivial
  | cons action rest later => exact ⟨never machine action, later _⟩

/-- A load forgets how two machines differ, unless it is refused on both. -/
theorem load_alike
    {Same : Machine → Machine → Prop} (refl : ∀ machine, Same machine machine)
    {first second : Machine} (same : Same first second) (random : first.random = second.random)
    (program : Array UInt8) : Outcome.Alike Same (first.load program) (second.load program) := by
  by_cases large : Memory.programCapacity < program.size
  · rw [load_of_lt large, load_of_lt large]
    exact ⟨rfl, rfl, same⟩
  · rw [load_of_le (Nat.not_lt.mp large), load_of_le (Nat.not_lt.mp large), random]
    exact ⟨rfl, rfl, refl _⟩

/-! ## The redraw flag -/

/-- The action takes the redraw flag. -/
def Action.takesRedraw : Action → Bool
  | .takeRedraw => true
  | _ => false

/-- No action tells machines apart that differ in the flag only. -/
theorem SameExceptRedraw.perform
    {first second : Machine} (same : first.SameExceptRedraw second) (action : Action) :
    Outcome.Alike SameExceptRedraw (first.perform action) (second.perform action) := by
  have random : first.random = second.random := by
    rw [same]
    rfl
  cases action with
  | load program => exact load_alike .refl same random program
  | reset =>
      rw [Machine.perform, reset, random]
      exact ⟨rfl, rfl, .refl _⟩
  | step => exact ⟨same.step.1, same.notices_step, same.step.2⟩
  | key change =>
      rw [same]
      exact ⟨rfl, rfl, rfl⟩
  | takeRedraw =>
      rw [same]
      exact ⟨rfl, rfl, rfl⟩

/-- Taking the flag goes unnoticed at any point of a run. -/
theorem unnoticed_takesRedraw :
    Unnoticed Action.takesRedraw (fun _ _ => False) SameExceptRedraw where
  inserted {first second action} noisy same := by
    cases action with
    | takeRedraw => exact same.withRedraw false
    | _ => cases noisy
  leftOut {first second action} noisy same := by
    cases action with
    | takeRedraw =>
        rw [same]
        rfl
    | _ => cases noisy
  both same _ := same.perform _

/-! ## The keypad -/

def withKeypad (machine : Machine) (keypad : Keypad) : Machine :=
  { machine with keypad := keypad }

/-- Every component of the two machines is the same, except perhaps the keypad. -/
def SameExceptKeypad (first second : Machine) : Prop :=
  second = first.withKeypad second.keypad

theorem SameExceptKeypad.refl (machine : Machine) : machine.SameExceptKeypad machine :=
  rfl

/-- The action writes the keypad. -/
def Action.writesKeys : Action → Bool
  | .key _ => true
  | _ => false

/-- The action is a successful step that asks for the keypad. -/
def ListensToKeys (machine : Machine) (action : Action) : Prop :=
  ∃ pattern ∈ ["Ex9E", "ExA1", "Fx0A"], machine.Executes pattern action

instance (machine : Machine) (action : Action) : Decidable (machine.ListensToKeys action) :=
  inferInstanceAs (Decidable (∃ pattern ∈ ["Ex9E", "ExA1", "Fx0A"],
    machine.Executes pattern action))

/-- The instruction comes to the same with another keypad, which it leaves alone. -/
structure Ignores (instruction : Instruction) (machine : Machine) (keypad : Keypad) : Prop where
  execute : (machine.withKeypad keypad).execute instruction =
    (machine.execute instruction).withKeypad keypad
  notices : (machine.withKeypad keypad).executionNotices instruction =
    machine.executionNotices instruction

/-- An instruction that does not read the keypad ignores what is on it. -/
theorem ignores_of_not_readsKeys
    {instruction : Instruction} (deaf : instruction.readsKeys = false) (machine : Machine)
    (keypad : Keypad) : Ignores instruction machine keypad := by
  cases instruction with
  | waitKey x => cases deaf
  | skipIf condition =>
      cases condition with
      | keyDown x => cases deaf
      | keyUp x => cases deaf
      | _ => exact ⟨rfl, rfl⟩
  | arithmetic operation x y => cases operation <;> exact ⟨rfl, rfl⟩
  | loadRegisters x =>
      refine ⟨?_, rfl⟩
      simp only [Machine.execute, fillRegisters, passIndex, next, advance, withKeypad]
  | _ => exact ⟨rfl, rfl⟩

/-- A test ignores a keypad on which it has the same answer. -/
theorem ignores_skipIf
    {machine : Machine} {keypad : Keypad} {condition : Condition}
    (agree : (machine.withKeypad keypad).holds condition = machine.holds condition) :
    Ignores (.skipIf condition) machine keypad := by
  refine ⟨?_, rfl⟩
  rw [Machine.execute, agree]
  rfl

theorem upcoming_withKeypad (machine : Machine) (keypad : Keypad) :
    (machine.withKeypad keypad).upcoming = machine.upcoming :=
  rfl

/-- A step whose instruction ignores the keypad comes to the same with another one. -/
theorem step_withKeypad
    {machine : Machine} {keypad : Keypad}
    (ignores : ∀ instruction, machine.halted = false → machine.upcoming = .ok instruction →
      Ignores instruction machine keypad) :
    (machine.withKeypad keypad).step =
      ⟨machine.step.machine.withKeypad keypad, machine.step.result, machine.step.notices⟩ := by
  have sameHalted : (machine.withKeypad keypad).halted = machine.halted := rfl
  have sameFetch : (machine.withKeypad keypad).fetchNotices = machine.fetchNotices := rfl
  rw [step, step, upcoming_withKeypad, sameHalted, sameFetch]
  cases halted : machine.halted with
  | true => rfl
  | false =>
      cases upcoming : machine.upcoming with
      | ok instruction =>
          have ignored := ignores instruction halted upcoming
          simp only [ignored.execute, ignored.notices]
          rfl
      | error fault => rfl

/-- A step that does not listen has an instruction that does not read the keypad. -/
theorem not_readsKeys_of_not_listens
    {machine : Machine} {instruction : Instruction} (running : machine.halted = false)
    (upcoming : machine.upcoming = .ok instruction) (deaf : ¬ machine.ListensToKeys .step) :
    instruction.readsKeys = false := by
  rcases (upcoming_eq_ok_iff machine instruction).mp upcoming with ⟨word, fetched, decoded, _⟩
  have succeeded : machine.step.result = .ok () := (step_of_upcoming_ok running upcoming).2
  have other (pattern : String) (member : pattern ∈ ["Ex9E", "ExA1", "Fx0A"]) :
      ¬ word.Matches pattern :=
    fun fits => deaf ⟨pattern, member, (executes_step_iff succeeded fetched pattern).mpr fits⟩
  have fits := Word.matches_pattern decoded
  cases instruction with
  | waitKey x => exact absurd fits (other _ (by simp [Instruction.pattern]))
  | skipIf condition =>
      cases condition with
      | keyDown x =>
          exact absurd fits (other _ (by simp [Instruction.pattern]))
      | keyUp x =>
          exact absurd fits (other _ (by simp [Instruction.pattern]))
      | _ => rfl
  | _ => rfl

/-- Machines with two keypads take an action alike, unless it listens to the keys. -/
theorem SameExceptKeypad.perform
    {first second : Machine} (same : first.SameExceptKeypad second) {action : Action}
    (deaf : ¬ first.ListensToKeys action) :
    Outcome.Alike SameExceptKeypad (first.perform action) (second.perform action) := by
  have random : first.random = second.random := by
    rw [same]
    rfl
  cases action with
  | load program => exact load_alike .refl same random program
  | reset =>
      rw [Machine.perform, Machine.perform, reset, reset, random]
      exact ⟨rfl, rfl, rfl⟩
  | step =>
      have ignores : ∀ instruction, first.halted = false → first.upcoming = .ok instruction →
          Ignores instruction first second.keypad := fun instruction running upcoming =>
        ignores_of_not_readsKeys (not_readsKeys_of_not_listens running upcoming deaf) first _
      have stepped := step_withKeypad ignores
      rw [← same] at stepped
      rw [Machine.perform, Machine.perform, stepped]
      exact ⟨rfl, rfl, rfl⟩
  | key change =>
      rw [same]
      exact ⟨rfl, rfl, rfl⟩
  | takeRedraw =>
      rw [same]
      exact ⟨rfl, rfl, rfl⟩

/-- Changes of the keypad go unnoticed as long as no step listens to keys. -/
theorem unnoticed_writesKeys :
    Unnoticed Action.writesKeys ListensToKeys SameExceptKeypad where
  inserted {first second action} noisy same := by
    cases action with
    | key change =>
        rw [same]
        rfl
    | _ => cases noisy
  leftOut {first second action} noisy same := by
    cases action with
    | key change =>
        rw [same]
        rfl
    | _ => cases noisy
  both same deaf := same.perform deaf

/-- A step that tests a key learns of that key and of no other. -/
theorem SameExceptKeypad.step_of_keyTest
    {first second : Machine} (same : first.SameExceptKeypad second) {word : Word}
    (fetches : first.Fetches word) (tests : word.Matches "Ex9E" ∨ word.Matches "ExA1")
    (agree : first.keypad.isDown (Key.ofByte (first.registers.get word.x)) =
      second.keypad.isDown (Key.ofByte (first.registers.get word.x))) :
    first.step.result = .ok () ∧
      second.step = ⟨first.step.machine.withKeypad second.keypad, .ok (), first.step.notices⟩ := by
  have agreeing : ∃ condition, word.instruction? = some (.skipIf condition) ∧
      (first.withKeypad second.keypad).holds condition = first.holds condition := by
    rcases tests with fits | fits
    · exact ⟨_, (word.matches_iff "Ex9E" (.skipIf (.keyDown word.x))).mp fits, agree.symm⟩
    · exact ⟨_, (word.matches_iff "ExA1" (.skipIf (.keyUp word.x))).mp fits,
        congrArg (!·) agree.symm⟩
  rcases agreeing with ⟨condition, decoded, answer⟩
  have upcoming : first.upcoming = .ok (.skipIf condition) :=
    upcoming_of_fetches fetches decoded rfl
  have succeeded : first.step.result = .ok () := (step_of_upcoming_ok fetches.1 upcoming).2
  have stepped : second.step =
      ⟨first.step.machine.withKeypad second.keypad, first.step.result, first.step.notices⟩ := by
    rw [congrArg step same]
    apply step_withKeypad
    intro instruction _ found
    rw [upcoming] at found
    cases found
    exact ignores_skipIf answer
  rw [succeeded] at stepped
  exact ⟨succeeded, stepped⟩

/-! ## Noninterference -/

/--
The host does not interfere.  Take any machine and any actions on it.

A host that takes the redraw flag at other times, or not at all, hears the same and ends with the
same machine except for that flag.

A host that writes the keypad at other times, or not at all, hears the same and ends with the same
machine except for the keypad, if no step of the run asks for the keypad.

A step that tests a key succeeds, and depends only on the key that the low nibble of its register
names: machines that differ in other keys step alike and differ in the same keys afterwards.
-/
theorem host_does_not_interfere (machine : Machine) :
    (∀ actions others, DifferIn Action.takesRedraw actions others →
      machine.heard Action.takesRedraw actions = machine.heard Action.takesRedraw others ∧
        (machine.performAll actions).SameExceptRedraw (machine.performAll others)) ∧
    (∀ actions others, DifferIn Action.writesKeys actions others →
      Lasts ListensToKeys machine actions →
        machine.heard Action.writesKeys actions = machine.heard Action.writesKeys others ∧
          (machine.performAll actions).SameExceptKeypad (machine.performAll others)) ∧
    ∀ other word (key : Key), machine.SameExceptKeypad other → machine.Fetches word →
      word.Matches "Ex9E" ∨ word.Matches "ExA1" →
        key.val = (machine.registers.get word.x).toNat % 16 →
          machine.keypad.isDown key = other.keypad.isDown key →
            machine.step.result = .ok () ∧ other.step.result = .ok () ∧
              machine.step.notices = other.step.notices ∧
              machine.step.machine.SameExceptKeypad other.step.machine ∧
              machine.step.machine.keypad = machine.keypad ∧
              other.step.machine.keypad = other.keypad := by
  refine ⟨?_, ?_, ?_⟩
  · intro actions others differ
    exact heard_eq_of_differ unnoticed_takesRedraw differ (.refl machine)
      (lasts_of_never (fun _ _ => not_false) machine actions)
  · intro actions others differ deaf
    exact heard_eq_of_differ unnoticed_writesKeys differ (.refl machine) deaf
  · intro other word key same fetches tests named agree
    have named' : key = Key.ofByte (machine.registers.get word.x) := Fin.ext named
    rw [named'] at agree
    rcases same.step_of_keyTest fetches tests agree with ⟨succeeded, stepped⟩
    have kept : machine.step.machine.keypad = machine.keypad :=
      (footprint_step succeeded ((fetches_iff machine word).mp fetches).2).keypad
    rw [stepped]
    exact ⟨succeeded, rfl, rfl, rfl, kept, rfl⟩

/-- A machine about to test the key that its register names by its low nibble. -/
def testing : Machine :=
  (create (Random.ofSeed 0)).machine.performAll [.load #[0x61, 0x35, 0xE1, 0x9E], .step]

theorem host_does_not_interfere_testing :
    (testing.performAll [.takeRedraw, .step]).SameExceptRedraw (testing.performAll [.step]) ∧
      ((create (Random.ofSeed 0)).machine.performAll
        [.load #[0x61, 0x35], .key (.press 3), .step]).SameExceptKeypad
          ((create (Random.ofSeed 0)).machine.performAll [.load #[0x61, 0x35], .step]) ∧
      testing.step.machine.SameExceptKeypad
        (testing.withKeypad (Keypad.released.assign 4 true)).step.machine := by
  have inserted : DifferIn Action.takesRedraw [.takeRedraw, .step] [.step] :=
    .inserted rfl (.both .step .nil)
  have pressed : DifferIn Action.writesKeys [.load #[0x61, 0x35], .key (.press 3), .step]
      [.load #[0x61, 0x35], .step] :=
    .both _ (.inserted rfl (.both .step .nil))
  have fetches : testing.Fetches ⟨0xE19E⟩ := by decide +kernel
  rcases host_does_not_interfere testing with ⟨redraws, _, tests⟩
  rcases host_does_not_interfere (create (Random.ofSeed 0)).machine with ⟨_, keys, _⟩
  have deaf : Lasts ListensToKeys (create (Random.ofSeed 0)).machine
      [.load #[0x61, 0x35], .key (.press 3), .step] := by
    decide +kernel
  have named : (5 : Key).val = (testing.registers.get (Word.x ⟨0xE19E⟩)).toNat % 16 := by
    decide +kernel
  have agree : testing.keypad.isDown 5 = (Keypad.released.assign 4 true).isDown 5 := by
    decide +kernel
  rcases tests (testing.withKeypad (Keypad.released.assign 4 true)) ⟨0xE19E⟩ 5 rfl fetches
    (.inl (by decide)) named agree with ⟨_, _, _, same, _, _⟩
  exact ⟨(redraws _ _ inserted).2, (keys _ _ pressed deaf).2, same⟩

end Machine

end ChipEight
