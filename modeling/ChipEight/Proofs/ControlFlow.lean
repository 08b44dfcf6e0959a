import ChipEight.Proofs.Calls
import ChipEight.Proofs.Footprint
import ChipEight.Proofs.History

/-!
# Where a step continues

The address at which a successful step continues, for every word.  Two kinds of words name it, a
jump with an offset adds to it, and a return goes back behind the last call that is still pending.
Every other word goes on to the next one, unless it waits for a key that is not there, which stays,
or its test succeeds, which passes over one word.  All of this is said of the machine before the
step, and with sums that do not wrap around.
-/

namespace ChipEight

/-! ## Tests -/

/-- The test that succeeds exactly if this one fails. -/
def Condition.opposite : Condition → Condition
  | .byteEqual x byte => .byteDifferent x byte
  | .byteDifferent x byte => .byteEqual x byte
  | .registersEqual x y => .registersDifferent x y
  | .registersDifferent x y => .registersEqual x y
  | .keyDown x => .keyUp x
  | .keyUp x => .keyDown x

theorem Condition.opposite_opposite (condition : Condition) :
    condition.opposite.opposite = condition := by
  cases condition <;> rfl

namespace Word

/-- The words ask for opposite tests of the same operands. -/
def Opposes (first second : Word) : Prop :=
  (first.Matches "3xnn" ∧ second.Matches "4xnn" ∧ first.x = second.x ∧ first.nn = second.nn) ∨
    (first.Matches "5xy0" ∧ second.Matches "9xy0" ∧ first.x = second.x ∧ first.y = second.y) ∨
      (first.Matches "Ex9E" ∧ second.Matches "ExA1" ∧ first.x = second.x)

variable {word : Word}

/-- Words that oppose one another ask for opposite tests of the same operands. -/
theorem Opposes.exists_condition {second : Word} (opposed : word.Opposes second) :
    ∃ condition, word.instruction? = some (.skipIf condition) ∧
      second.instruction? = some (.skipIf condition.opposite) := by
  rcases opposed with ⟨equal, different, x, nn⟩ | ⟨equal, different, x, y⟩ | ⟨down, up, x⟩
  · exact ⟨.byteEqual word.x word.nn,
      (word.matches_iff "3xnn" (.skipIf (.byteEqual word.x word.nn))).mp equal,
      (second.matches_iff "4xnn" (.skipIf (.byteDifferent word.x word.nn)) ⟨x, nn⟩).mp different⟩
  · exact ⟨.registersEqual word.x word.y,
      (word.matches_iff "5xy0" (.skipIf (.registersEqual word.x word.y))).mp equal,
      (second.matches_iff "9xy0" (.skipIf (.registersDifferent word.x word.y)) ⟨x, y⟩).mp different⟩
  · exact ⟨.keyDown word.x,
      (word.matches_iff "Ex9E" (.skipIf (.keyDown word.x))).mp down,
      (second.matches_iff "ExA1" (.skipIf (.keyUp word.x)) x).mp up⟩

end Word

namespace Machine

/-- The word is a test, and it succeeds. -/
def Skips (machine : Machine) (word : Word) : Prop :=
  let left := machine.registers.get word.x
  let right := machine.registers.get word.y
  let down := machine.keypad.isDown (Key.ofByte left)
  (word.Matches "3xnn" ∧ left = word.nn) ∨ (word.Matches "4xnn" ∧ left ≠ word.nn) ∨
    (word.Matches "5xy0" ∧ left = right) ∨ (word.Matches "9xy0" ∧ left ≠ right) ∨
      (word.Matches "Ex9E" ∧ down = true) ∨ (word.Matches "ExA1" ∧ down = false)

/-- The word waits for a key, and all keys are up. -/
def Stalls (machine : Machine) (word : Word) : Prop :=
  word.Matches "Fx0A" ∧ ∀ key, machine.keypad.isDown key = false

section Step

variable {machine : Machine} {word : Word} {instruction : Instruction}

theorem holds_opposite (machine : Machine) (condition : Condition) :
    machine.holds condition.opposite = !machine.holds condition := by
  cases condition <;> simp [Condition.opposite, holds, bne]

/-- The pattern of a word leaves at most one of the six tests, which holds if the word skips. -/
theorem skips_iff (machine : Machine) (decoded : word.instruction? = some instruction) :
    machine.Skips word ↔
      ∃ condition, instruction = .skipIf condition ∧ machine.holds condition = true := by
  have operands := Word.operandsFrom_of_instruction? decoded
  have fits {pattern : String} (listed : pattern ∈ encodings.map Encoding.pattern) :=
    Word.matches_iff_pattern decoded listed
  rw [Skips, fits (by simp [encodings, plainEncodings]), fits (by simp [encodings, plainEncodings]),
    fits (by simp [encodings, plainEncodings]), fits (by simp [encodings, plainEncodings]),
    fits (by simp [encodings, keyEncodings]), fits (by simp [encodings, keyEncodings])]
  cases instruction with
  | skipIf condition =>
      cases condition with
      | byteEqual x byte | byteDifferent x byte | registersEqual x y | registersDifferent x y =>
          rcases operands with ⟨rfl, rfl⟩
          simp [Instruction.pattern, holds]
      | keyDown x | keyUp x =>
          cases operands
          simp [Instruction.pattern, holds]
  | arithmetic operation x y =>
      cases operation <;> simp [Instruction.pattern, Arithmetic.pattern]
  | _ => simp [Instruction.pattern]

/-- A word stalls exactly if it waits for a key and no key is down. -/
theorem stalls_iff (machine : Machine) (decoded : word.instruction? = some instruction) :
    machine.Stalls word ↔
      ∃ x, instruction = .waitKey x ∧ machine.keypad.first?.isSome = false := by
  have allUp : (∀ key, machine.keypad.isDown key = false) ↔
      machine.keypad.first?.isSome = false := by
    rw [← Bool.not_eq_true, first?_isSome_iff, Classical.not_not]
  rw [Stalls, Word.matches_iff_pattern decoded (by simp [encodings, deviceEncodings]), allUp]
  cases instruction with
  | skipIf condition => cases condition <;> simp [Instruction.pattern]
  | arithmetic operation x y =>
      cases operation <;> simp [Instruction.pattern, Arithmetic.pattern]
  | _ => simp [Instruction.pattern]

/-- A word that names no address stays, passes over one word or goes on to the next one. -/
theorem continuation_cases
    (machine : Machine) (decoded : word.instruction? = some instruction)
    (plain : ¬ word.MatchesAny ["1nnn", "2nnn", "Bnnn", "00EE"]) :
    (machine.Stalls word ∧ ¬ machine.Skips word ∧
        machine.continuation instruction = machine.pc.toNat) ∨
      (¬ machine.Stalls word ∧ machine.Skips word ∧
        machine.continuation instruction = machine.pc.toNat + 4) ∨
      (¬ machine.Stalls word ∧ ¬ machine.Skips word ∧
        machine.continuation instruction = machine.pc.toNat + 2) := by
  have fits := Word.matches_pattern decoded
  rw [stalls_iff machine decoded, skips_iff machine decoded]
  cases instruction with
  | ret | jump target | call target | jumpOffset base =>
      exact absurd ⟨_, by simp [Instruction.pattern], fits⟩ plain
  | skipIf condition => cases succeeds : machine.holds condition <;> simp [continuation, succeeds]
  | waitKey x =>
      cases answered : machine.keypad.first?.isSome <;> simp [continuation, answered]
  | _ => simp [continuation]

/-- A test always succeeds as a step, and passes over a word if it succeeds as a test. -/
theorem Bounded.step_of_skipIf
    (bounded : machine.Bounded) {condition : Condition} (fetches : machine.Fetches word)
    (decoded : word.instruction? = some (.skipIf condition)) :
    machine.step.result = .ok () ∧
      machine.step.machine.pc.toNat =
        machine.pc.toNat + if machine.holds condition then 4 else 2 := by
  have upcoming : machine.upcoming = .ok (.skipIf condition) :=
    upcoming_of_fetches fetches decoded rfl
  rcases step_of_upcoming_ok fetches.1 upcoming with ⟨carried, succeeded⟩
  rw [carried]
  exact ⟨succeeded, bounded.toNat_execute_pc upcoming⟩

end Step

/-! ## Pending calls -/

theorem getElem?_entries_last
    {stack : CallStack} {slot : Nat} (depth : stack.depth = slot + 1)
    (bound : stack.depth ≤ CallStack.capacity) : stack.entries[slot]? = some stack.top := by
  have pending : 0 < stack.depth := depth ▸ Nat.succ_pos slot
  have last : stack.entries.getLast? = some stack.top := by
    rw [stack.entries_eq_append_top pending bound, List.getLast?_concat]
  rwa [List.getLast?_eq_getElem?, stack.length_entries bound, depth, Nat.succ_sub_one] at last

/-- A call at the address, while so many calls are pending. -/
def CallsFrom (caller : UInt16) (slot : Nat) (machine : Machine) (action : Action) : Prop :=
  Executes "2nnn" machine action ∧ machine.pc = caller ∧ machine.stack.depth = slot

/-- No more than so many calls are pending after the action. -/
def Uncovers (slot : Nat) (machine : Machine) (action : Action) : Prop :=
  (machine.perform action).machine.stack.depth ≤ slot

/-- A pending call was made by the step, which adds one entry at the depth before the call, or it
was pending before. -/
theorem Bounded.getElem?_entries_step
    {machine : Machine} (bounded : machine.Bounded) {slot : Nat} {caller : UInt16}
    (pending : machine.step.machine.stack.entries[slot]? = some caller) :
    CallsFrom caller slot machine .step ∨ machine.stack.entries[slot]? = some caller := by
  rcases step_machine_cases machine with same | halted | ⟨instruction, running, upcoming, carried⟩
  · rw [same] at pending
    exact Or.inr pending
  · rw [halted] at pending
    exact Or.inr pending
  · have stack : machine.step.machine.stack = (machine.execute instruction).stack := by
      rw [carried]
      rfl
    rw [stack, execute_stack] at pending
    cases instruction with
    | ret =>
        rw [CallStack.entries_pop _ bounded.depth_le, List.getElem?_dropLast] at pending
        split at pending
        · exact Or.inr pending
        · cases pending
    | call target =>
        have room : machine.stack.depth < CallStack.capacity :=
          (fault?_call_eq_none_iff machine target).mp (fault?_of_upcoming_ok upcoming)
        have length : machine.stack.entries.length = machine.stack.depth :=
          machine.stack.length_entries bounded.depth_le
        simp only [CallStack.entries_push _ _ room] at pending
        by_cases older : slot < machine.stack.entries.length
        · rw [List.getElem?_append_left older] at pending
          exact Or.inr pending
        · rw [List.getElem?_append_right (Nat.not_lt.mp older), List.getElem?_singleton] at pending
          split at pending
          case isTrue newest =>
            rcases (upcoming_eq_ok_iff machine _).mp upcoming with ⟨word, fetched, decoded, _⟩
            have succeeded : machine.step.result = .ok () :=
              (step_of_upcoming_ok running upcoming).2
            have called : machine.Executes "2nnn" .step :=
              (executes_step_iff succeeded fetched _).mpr (Word.matches_pattern decoded)
            have depth : machine.stack.depth = slot := by omega
            exact Or.inl ⟨called, Option.some.inj pending, depth⟩
          case isFalse => cases pending
    | _ => exact Or.inr pending

/-- A call that is pending after an action was made by it, or was pending and not uncovered. -/
theorem Bounded.getElem?_entries_perform
    {machine : Machine} (bounded : machine.Bounded) {action : Action} {slot : Nat}
    {caller : UInt16}
    (pending : (machine.perform action).machine.stack.entries[slot]? = some caller) :
    CallsFrom caller slot machine action ∨
      (machine.stack.entries[slot]? = some caller ∧ ¬ Uncovers slot machine action) := by
  have covered : ¬ Uncovers slot machine action := by
    have below : slot < (machine.perform action).machine.stack.entries.length :=
      (List.getElem?_eq_some_iff.mp pending).1
    rw [CallStack.length_entries _ (bounded.perform action).depth_le] at below
    exact Nat.not_le.mpr below
  cases action with
  | load program =>
      simp only [Machine.perform, Machine.load] at pending
      split at pending
      · exact Or.inr ⟨pending, covered⟩
      · cases pending
  | reset => cases pending
  | step =>
      rcases bounded.getElem?_entries_step pending with called | before
      · exact Or.inl called
      · exact Or.inr ⟨before, covered⟩
  | key change => exact Or.inr ⟨pending, covered⟩
  | takeRedraw => exact Or.inr ⟨pending, covered⟩

/-- Every pending call goes back to a step of the run that made it. -/
theorem outstanding_of_pending
    {random : Random} {actions : List Action} {slot : Nat} {caller : UInt16}
    (pending : ((create random).machine.performAll actions).stack.entries[slot]? = some caller) :
    Outstanding (CallsFrom caller slot) (Uncovers slot) (create random).machine actions := by
  rcases outstanding_of_performAll (fun machine => machine.stack.entries[slot]? = some caller)
      (fun _ _ bounded => bounded.getElem?_entries_perform)
      (bounded_start #[] random) pending with ⟨impossible, _⟩ | outstanding
  · cases impossible
  · exact outstanding

/-! ## The address of the next word -/

section Step

variable {machine : Machine} {word : Word}

/-- A successful step continues where its instruction says. -/
theorem Bounded.exists_continuation
    (bounded : machine.Bounded) (fetches : machine.Fetches word)
    (succeeded : machine.step.result = .ok ()) :
    ∃ instruction, word.instruction? = some instruction ∧ machine.fault? instruction = none ∧
      machine.step.machine.pc.toNat = machine.continuation instruction := by
  have fetched := ((fetches_iff machine word).mp fetches).2
  rcases carried_of_step_ok succeeded fetched with ⟨instruction, decoded, upcoming, carried⟩
  refine ⟨instruction, decoded, fault?_of_upcoming_ok upcoming, ?_⟩
  rw [carried]
  exact bounded.toNat_execute_pc upcoming

/-- With opposite tests in the same place, one machine passes over a word and the other does not. -/
theorem Bounded.step_of_opposes
    (bounded : machine.Bounded) (fetches : machine.Fetches word) {memory : Memory} {twin : Word}
    (fetchesTwin : { machine with memory := memory }.Fetches twin)
    (opposed : word.Opposes twin ∨ twin.Opposes word) :
    let pc := machine.pc.toNat
    let next := machine.step.machine.pc.toNat
    let other := { machine with memory := memory }
    let otherNext := other.step.machine.pc.toNat
    other.step.result = .ok () ∧
      ((next = pc + 4 ∧ otherNext = pc + 2) ∨ (next = pc + 2 ∧ otherNext = pc + 4)) := by
  intro pc next other otherNext
  have otherBounded : other.Bounded :=
    ⟨bounded.pc_le, bounded.index_le, bounded.depth_le, bounded.entries_le⟩
  have tests : ∃ condition, word.instruction? = some (.skipIf condition) ∧
      twin.instruction? = some (.skipIf condition.opposite) := by
    rcases opposed with opposed | opposed
    · exact opposed.exists_condition
    · rcases opposed.exists_condition with ⟨condition, decodedTwin, decoded⟩
      exact ⟨condition.opposite, decoded, condition.opposite_opposite.symm ▸ decodedTwin⟩
  rcases tests with ⟨condition, decoded, decodedTwin⟩
  rcases bounded.step_of_skipIf fetches decoded with ⟨_, continues⟩
  rcases otherBounded.step_of_skipIf fetchesTwin decodedTwin with ⟨succeeded, otherContinues⟩
  have answer : other.holds condition.opposite = !machine.holds condition := by
    rw [holds_opposite]
    cases condition <;> rfl
  refine ⟨succeeded, ?_⟩
  rw [answer] at otherContinues
  cases succeeds : machine.holds condition with
  | true =>
      rw [succeeds] at continues otherContinues
      exact Or.inl ⟨continues, otherContinues⟩
  | false =>
      rw [succeeds] at continues otherContinues
      exact Or.inr ⟨continues, otherContinues⟩

end Step

/--
Where a successful step of a run continues.  A jump and a call continue at their address, a jump
with an offset at the sum of its address and the first register, which may lie beyond memory.  A
return continues behind the last pending call, which was made by a step of the run and has been
pending ever since.  Every other word stays if it waits for a key that is not there, passes over one
word if its test succeeds, and goes on to the next word otherwise.

So if the program had the opposite test of the same operands in this place, exactly one of the two
would pass over a word.
-/
theorem step_continues
    {random : Random} {actions : List Action} {machine : Machine}
    (ran : (create random).machine.performAll actions = machine) {word : Word}
    (fetches : machine.Fetches word) (succeeded : machine.step.result = .ok ()) :
    let pc := machine.pc.toNat
    let next := machine.step.machine.pc.toNat
    (word.Matches "1nnn" ∨ word.Matches "2nnn" → next = word.nnn.val) ∧
      (word.Matches "Bnnn" → next = word.nnn.val + (machine.registers.get 0).toNat) ∧
      (word.Matches "00EE" → ∃ caller slot, next = caller.toNat + 2 ∧
        machine.stack.depth = slot + 1 ∧ machine.stack.entries[slot]? = some caller ∧
          Outstanding (CallsFrom caller slot) (Uncovers slot) (create random).machine actions) ∧
      (¬ word.MatchesAny ["1nnn", "2nnn", "Bnnn", "00EE"] →
        (next = pc ↔ machine.Stalls word) ∧ (next = pc + 4 ↔ machine.Skips word) ∧
          (¬ machine.Stalls word → ¬ machine.Skips word → next = pc + 2)) ∧
      ∀ memory twin,
        let other := { machine with memory := memory }
        let otherNext := other.step.machine.pc.toNat
        other.Fetches twin → word.Opposes twin ∨ twin.Opposes word →
          other.step.result = .ok () ∧
            ((next = pc + 4 ∧ otherNext = pc + 2) ∨ (next = pc + 2 ∧ otherNext = pc + 4)) := by
  intro pc next
  have reachable : machine.Reachable := ⟨random, actions, ran⟩
  have bounded : machine.Bounded := reachable.bounded
  rcases bounded.exists_continuation fetches succeeded with
    ⟨instruction, decoded, harmless, continues⟩
  refine ⟨?_, ?_, ?_, ?_, ?_⟩
  · rintro (jump | call)
    · rw [(word.matches_iff "1nnn" (.jump word.nnn)).mp jump] at decoded
      cases decoded
      exact continues
    · rw [(word.matches_iff "2nnn" (.call word.nnn)).mp call] at decoded
      cases decoded
      exact continues
  · intro offset
    rw [(word.matches_iff "Bnnn" (.jumpOffset word.nnn)).mp offset] at decoded
    cases decoded
    exact continues
  · intro returns
    rw [(word.matches_iff "00EE" .ret).mp returns] at decoded
    cases decoded
    have pending : 0 < machine.stack.depth := (fault?_ret_eq_none_iff machine).mp harmless
    rcases Nat.exists_eq_succ_of_ne_zero (Nat.ne_of_gt pending) with ⟨slot, depth⟩
    have last := getElem?_entries_last depth bounded.depth_le
    exact ⟨machine.stack.top, slot, continues, depth, last,
      outstanding_of_pending (ran.symm ▸ last)⟩
  · intro plain
    rcases continuation_cases machine decoded plain with
      ⟨stalls, passes, here⟩ | ⟨stalls, passes, here⟩ | ⟨stalls, passes, here⟩
    all_goals simp [next, pc, continues, here, stalls, passes]
  · exact fun memory twin fetchesTwin opposed => bounded.step_of_opposes fetches fetchesTwin opposed

/-- The actions of a run that calls and is about to return. -/
def calls : List Action :=
  [.load #[0x22, 0x04, 0x00, 0x00, 0x00, 0xEE], .step]

def returning : Machine :=
  (create (Random.ofSeed 0)).machine.performAll calls

theorem step_continues_returning :
    returning.Fetches ⟨0x00EE⟩ ∧ returning.step.result = .ok () ∧
      returning.step.machine.pc.toNat = 0x202 ∧
      Outstanding (CallsFrom 0x200 0) (Uncovers 0) (create (Random.ofSeed 0)).machine calls := by
  have ran : (create (Random.ofSeed 0)).machine.performAll calls = returning := rfl
  have fetches : returning.Fetches ⟨0x00EE⟩ := by decide +kernel
  have succeeded : returning.step.result = .ok () := by decide +kernel
  rcases step_continues ran fetches succeeded with ⟨_, _, returns, _⟩
  rcases returns (by decide) with ⟨caller, slot, continues, depth, last, outstanding⟩
  have one : returning.stack.depth = 1 := by decide +kernel
  have called : returning.stack.entries[0]? = some 0x200 := by decide +kernel
  have lowest : slot = 0 := Nat.succ.inj (depth.symm.trans one)
  subst lowest
  have caller_eq : caller = 0x200 := Option.some.inj (last.symm.trans called)
  subst caller_eq
  exact ⟨fetches, succeeded, continues, outstanding⟩

end Machine

end ChipEight
