import ChipEight.Proofs.Outcome
import Mathlib.Control.Monad.Basic

/-!
# Calls and returns

A subroutine returns to its caller: whatever the steps between a call and the return that ends it
do, as long as the stack stays deeper than before the call, the return continues after the call and
restores the stack that the caller had.

The invariant of the steps in between is that the lowest entries of the stack stay as they are.  A
call adds an entry above them, a return at a greater depth takes one away above them, and no other
instruction touches the stack.
-/

namespace ChipEight.Machine

/-- Whether an action leaves the program that is running in place. -/
def Action.continues : Action → Bool
  | .step | .key _ | .takeRedraw => true
  | .load _ | .reset => false

/-- The actions succeed, leave the program in place, and never bring the stack below a depth. -/
def StaysAbove (floor : Nat) : Machine → List Action → Prop
  | machine, [] => floor ≤ machine.stack.depth
  | machine, action :: rest =>
      floor ≤ machine.stack.depth ∧ action.continues = true ∧
        (machine.perform action).result = .ok () ∧
          StaysAbove floor (machine.perform action).machine rest

instance decidableStaysAbove (floor : Nat) :
    (machine : Machine) → (actions : List Action) → Decidable (machine.StaysAbove floor actions)
  | machine, [] => inferInstanceAs (Decidable (floor ≤ machine.stack.depth))
  | machine, action :: rest =>
      have := decidableStaysAbove floor (machine.perform action).machine rest
      inferInstanceAs (Decidable (floor ≤ machine.stack.depth ∧ action.continues = true ∧
        (machine.perform action).result = .ok () ∧
          StaysAbove floor (machine.perform action).machine rest))

theorem StaysAbove.floor_le
    {floor : Nat} {machine : Machine} {actions : List Action}
    (deep : machine.StaysAbove floor actions) : floor ≤ machine.stack.depth := by
  cases actions with
  | nil => exact deep
  | cons action rest => exact deep.1

/-! ## The lowest entries -/

/-- An instruction that starts and ends above a depth keeps the entries below it. -/
theorem Bounded.take_entries_execute
    {machine : Machine} {instruction : Instruction} {floor : Nat}
    (bounded : machine.Bounded) (upcoming : machine.upcoming = .ok instruction)
    (before : floor ≤ machine.stack.depth)
    (after : floor ≤ (machine.execute instruction).stack.depth) :
    (machine.execute instruction).stack.entries.take floor =
      machine.stack.entries.take floor := by
  rw [execute_stack] at after ⊢
  cases instruction with
  | ret =>
      have pending : 0 < machine.stack.depth :=
        (fault?_ret_eq_none_iff machine).mp (fault?_of_upcoming_ok upcoming)
      have below : floor ≤ machine.stack.pop.entries.length := by
        rw [CallStack.length_entries _ (Nat.le_trans (Nat.sub_le _ _) bounded.depth_le)]
        exact after
      rw [machine.stack.entries_eq_append_top pending bounded.depth_le,
        List.take_append_of_le_length below]
  | call target =>
      have room : machine.stack.depth < CallStack.capacity :=
        (fault?_call_eq_none_iff machine target).mp (fault?_of_upcoming_ok upcoming)
      have below : floor ≤ machine.stack.entries.length := by
        rw [CallStack.length_entries _ bounded.depth_le]
        exact before
      simp only
      rw [CallStack.entries_push _ _ room, List.take_append_of_le_length below]
  | _ => rfl

/-- One action of a subroutine keeps the lowest entries and does not halt the machine. -/
theorem Bounded.kept_perform
    {machine : Machine} {action : Action} {floor : Nat}
    (bounded : machine.Bounded) (continues : action.continues = true)
    (succeeded : (machine.perform action).result = .ok ())
    (before : floor ≤ machine.stack.depth)
    (after : floor ≤ (machine.perform action).machine.stack.depth) :
    (machine.perform action).machine.halted = machine.halted ∧
      (machine.perform action).machine.stack.entries.take floor =
        machine.stack.entries.take floor := by
  cases action with
  | step =>
      rcases (step_result_ok_iff machine).mp succeeded with ⟨running, instruction, upcoming⟩
      have carried : (machine.perform .step).machine = (machine.execute instruction).tick :=
        (step_of_upcoming_ok running upcoming).1
      rw [carried] at after ⊢
      exact ⟨execute_halted machine instruction,
        bounded.take_entries_execute upcoming before after⟩
  | key change => exact ⟨rfl, rfl⟩
  | takeRedraw => exact ⟨rfl, rfl⟩
  | load program => cases continues
  | reset => cases continues

/-- A whole subroutine keeps the lowest entries and does not halt the machine. -/
theorem Bounded.kept_performAll
    {machine : Machine} {actions : List Action} {floor : Nat}
    (bounded : machine.Bounded) (deep : machine.StaysAbove floor actions) :
    (machine.performAll actions).halted = machine.halted ∧
      (machine.performAll actions).stack.entries.take floor =
        machine.stack.entries.take floor := by
  induction actions generalizing machine with
  | nil => exact ⟨rfl, rfl⟩
  | cons action rest step =>
      rcases deep with ⟨before, continues, succeeded, remaining⟩
      have first := bounded.kept_perform continues succeeded before remaining.floor_le
      have later := step (bounded.perform action) remaining
      rw [performAll_cons]
      exact ⟨later.1.trans first.1, later.2.trans first.2⟩

/-! ## The two ends of a subroutine -/

/-- A successful call notes its own address above the entries that were there. -/
theorem step_of_call
    {machine : Machine} {word : Word}
    (fetches : machine.Fetches word) (call : word.Matches "2nnn")
    (succeeded : machine.step.result = .ok ()) :
    machine.step.machine.halted = false ∧
      machine.step.machine.stack.entries = machine.stack.entries ++ [machine.pc] := by
  rcases (fetches_iff machine word).mp fetches with ⟨running, fetched⟩
  rcases carried_of_step_ok succeeded fetched with ⟨instruction, decoded, upcoming, carried⟩
  rw [(word.matches_iff "2nnn" (.call word.nnn)).mp call] at decoded
  cases decoded
  have room : machine.stack.depth < CallStack.capacity :=
    (fault?_call_eq_none_iff machine word.nnn).mp (fault?_of_upcoming_ok upcoming)
  rw [carried]
  exact ⟨running, machine.stack.entries_push machine.pc room⟩

/-- A return with a pending call succeeds, continues after it and takes it off the stack. -/
theorem Bounded.step_of_return
    {machine : Machine} {word : Word} (bounded : machine.Bounded)
    (fetches : machine.Fetches word) (returns : word.Matches "00EE")
    (pending : 0 < machine.stack.depth) :
    machine.step.result = .ok () ∧
      machine.step.machine.pc.toNat = machine.stack.top.toNat + 2 ∧
      machine.step.machine.stack = machine.stack.pop := by
  have caller : machine.stack.top.toNat ≤ 0xFFE := bounded.top_le pending
  rcases step_of_fetches fetches ((word.matches_iff "00EE" .ret).mp returns)
      ((fault?_ret_eq_none_iff machine).mpr pending) with ⟨carried, succeeded⟩
  rw [carried]
  refine ⟨succeeded, ?_, execute_stack machine .ret⟩
  calc
    (machine.execute .ret).tick.pc.toNat = (machine.stack.top + 2).toNat := rfl
    _ = machine.stack.top.toNat + 2 := by
      rw [UInt16.toNat_add]
      exact Nat.mod_eq_of_lt (by simp; omega)

/--
Calls are well bracketed.  After a successful call, let any actions follow that succeed, leave the
program in place and keep the stack deeper than before the call.  If the machine then fetches a
return while the stack is deeper by one, the step succeeds, continues at the word after the call,
and restores the entries that were pending before the call.
-/
theorem return_after_call
    {machine : Machine} (reachable : machine.Reachable)
    {callWord : Word} (fetchesCall : machine.Fetches callWord)
    (call : callWord.Matches "2nnn") (succeeded : machine.step.result = .ok ())
    {actions : List Action}
    (deep : machine.step.machine.StaysAbove (machine.stack.depth + 1) actions)
    {returnWord : Word}
    (fetched : (machine.step.machine.performAll actions).fetch? = some returnWord)
    (returns : returnWord.Matches "00EE")
    (depth : (machine.step.machine.performAll actions).stack.depth = machine.stack.depth + 1) :
    let last := (machine.step.machine.performAll actions).step
    last.result = .ok () ∧ last.machine.pc.toNat = machine.pc.toNat + 2 ∧
      last.machine.stack.depth = machine.stack.depth ∧
      last.machine.stack.entries = machine.stack.entries := by
  intro last
  let inner := machine.step.machine.performAll actions
  have bounded : machine.Bounded := reachable.bounded
  have innerBounded : inner.Bounded :=
    ((reachable.performAll [.step]).performAll actions).bounded
  have pending : 0 < inner.stack.depth := depth ▸ Nat.succ_pos _
  rcases step_of_call fetchesCall call succeeded with ⟨running, pushed⟩
  rcases (bounded.perform .step).kept_performAll deep with ⟨stillRunning, kept⟩
  have callerLength : machine.stack.entries.length = machine.stack.depth :=
    machine.stack.length_entries bounded.depth_le
  have innerEntries : inner.stack.entries = machine.stack.entries ++ [machine.pc] := by
    have whole : inner.stack.entries.take (machine.stack.depth + 1) = inner.stack.entries := by
      apply List.take_of_length_le
      rw [CallStack.length_entries _ innerBounded.depth_le]
      exact Nat.le_of_eq depth
    have entered : machine.step.machine.stack.entries.take (machine.stack.depth + 1) =
        machine.stack.entries ++ [machine.pc] := by
      rw [pushed]
      apply List.take_of_length_le
      simp [callerLength]
    exact whole.symm.trans (kept.trans entered)
  have split : inner.stack.pop.entries ++ [inner.stack.top] =
      machine.stack.entries ++ [machine.pc] :=
    (inner.stack.entries_eq_append_top pending innerBounded.depth_le).symm.trans innerEntries
  rcases List.append_inj' split rfl with ⟨restored, caller⟩
  have fetches : inner.Fetches returnWord :=
    (fetches_iff inner returnWord).mpr ⟨stillRunning.trans running, fetched⟩
  rcases innerBounded.step_of_return fetches returns pending with ⟨ok, continued, popped⟩
  refine ⟨ok, ?_, ?_, ?_⟩
  · rw [continued, List.singleton_inj.mp caller]
  · rw [popped]
    exact Nat.sub_eq_of_eq_add depth
  · rw [popped, restored]

/-- A machine about to call a subroutine that calls another one. -/
def calling : Machine :=
  (create (Random.ofSeed 0)).machine.performAll
    [.load #[0x22, 0x06, 0x12, 0x02, 0x00, 0x00, 0x22, 0x0A, 0x00, 0xEE, 0x00, 0xEE]]

/-- The nested call and its return, while the host uses the keypad and the screen. -/
def nestedCall : List Action :=
  [.step, .key (.press 3), .takeRedraw, .step]

theorem return_after_call_calling :
    calling.Reachable ∧
      (calling.step.machine.performAll nestedCall).step.machine.pc.toNat = 0x202 ∧
      (calling.step.machine.performAll nestedCall).step.machine.stack.depth = 0 := by
  have reachable : calling.Reachable := ⟨_, _, rfl⟩
  have fetches : calling.Fetches ⟨0x2206⟩ := by decide +kernel
  have call : Word.Matches ⟨0x2206⟩ "2nnn" := by decide
  have succeeded : calling.step.result = .ok () := by decide +kernel
  have deep : calling.step.machine.StaysAbove (calling.stack.depth + 1) nestedCall := by
    decide +kernel
  have fetched : (calling.step.machine.performAll nestedCall).fetch? = some ⟨0x00EE⟩ := by
    decide +kernel
  have returns : Word.Matches ⟨0x00EE⟩ "00EE" := by decide
  have depth : (calling.step.machine.performAll nestedCall).stack.depth =
      calling.stack.depth + 1 := by
    decide +kernel
  rcases return_after_call reachable fetches call succeeded deep fetched returns depth with
    ⟨_, continued, restored, _⟩
  have start : calling.pc.toNat + 2 = 0x202 := by decide +kernel
  have shallow : calling.stack.depth = 0 := by decide +kernel
  exact ⟨reachable, continued.trans start, restored.trans shallow⟩

end ChipEight.Machine
