import ChipEight.Proofs.Bounds
import ChipEight.Proofs.Replies

/-!
# The stack as a list

A return leaves its slot as it was, so the slots above the depth of the stack are stale.  No action
reads them.  To say so, a second machine has a list of addresses in place of the slots: a call adds
its own address in front, a return takes the first address away, and there is nothing else to read.

Each machine of slots is listed as such a machine.  An action of the listed machine does and tells
what the action does and tells on the machine of slots, so their runs have the same replies.  Two
machines that differ in stale slots only are listed as the same machine.
-/

namespace ChipEight

/-- The addresses of the pending calls, the last call first; there are at most sixteen. -/
structure Pending where
  callers : List UInt16
  few : callers.length ≤ CallStack.capacity

namespace Pending

def empty : Pending :=
  ⟨[], Nat.zero_le _⟩

/-- Add the address of a call, if there is room for it. -/
def push? (pending : Pending) (caller : UInt16) : Option Pending :=
  if room : pending.callers.length < CallStack.capacity then
    some ⟨caller :: pending.callers, room⟩
  else none

/-- The address of the last call and the calls before it, if any call is pending. -/
def pop? : Pending → Option (UInt16 × Pending)
  | ⟨[], _⟩ => none
  | ⟨caller :: earlier, few⟩ => some (caller, ⟨earlier, Nat.le_of_succ_le few⟩)

theorem ext_callers {first second : Pending} (same : first.callers = second.callers) :
    first = second := by
  cases first
  cases second
  cases same
  rfl

end Pending

/-! ## The slots in use as a list -/

namespace CallStack

/-- The entries are the slots below the depth. -/
theorem getElem?_entries (stack : CallStack) (slot : Fin 16) :
    stack.entries[slot.val]? =
      if slot.val < stack.depth then some (stack.slots.get slot) else none := by
  rw [entries, List.getElem?_take]
  split
  · rw [List.getElem?_eq_getElem (by simp)]
    rfl
  · rfl

theorem length_entries_le (stack : CallStack) : stack.entries.length ≤ capacity :=
  Nat.le_trans (List.length_take_le' _ _) (Nat.le_of_eq stack.slots.length_toList)

/-- Stacks with the same slots in use have the same entries. -/
theorem entries_eq_of_slots
    {first second : CallStack} (depth : first.depth = second.depth)
    (slots : ∀ slot : Fin 16, slot.val < first.depth →
      first.slots.get slot = second.slots.get slot) : first.entries = second.entries := by
  apply List.ext_getElem?
  intro index
  by_cases inside : index < 16
  · obtain ⟨slot, rfl⟩ : ∃ slot : Fin 16, slot.val = index := ⟨⟨index, inside⟩, rfl⟩
    rw [getElem?_entries, getElem?_entries, ← depth]
    split
    case isTrue used => rw [slots slot used]
    case isFalse => rfl
  · have outside (stack : CallStack) : stack.entries[index]? = none := by
      apply List.getElem?_eq_none
      exact Nat.le_trans stack.length_entries_le (Nat.not_lt.mp inside)
    rw [outside, outside]

/-- The addresses in the slots that are in use. -/
def pending (stack : CallStack) : Pending where
  callers := stack.entries.reverse
  few := by
    rw [List.length_reverse]
    exact stack.length_entries_le

/-- Pending calls are the entries of the stack, the latest first. -/
@[simp]
theorem callers_pending (stack : CallStack) : stack.pending.callers = stack.entries.reverse :=
  rfl

theorem length_pending (stack : CallStack) (bound : stack.depth ≤ capacity) :
    stack.pending.callers.length = stack.depth := by
  rw [pending, List.length_reverse, length_entries stack bound]

theorem push?_pending_of_lt
    {stack : CallStack} (room : stack.depth < capacity) (caller : UInt16) :
    stack.pending.push? caller = some (stack.push caller).pending := by
  have fits : stack.pending.callers.length < capacity := by
    rwa [length_pending stack (Nat.le_of_lt room)]
  rw [Pending.push?, dif_pos fits]
  apply congrArg some
  apply Pending.ext_callers
  simp [pending, entries_push stack caller room]

theorem push?_pending_of_le
    {stack : CallStack} (full : capacity ≤ stack.depth) (caller : UInt16) :
    stack.pending.push? caller = none := by
  apply dif_neg
  simp [pending, entries, Nat.min_eq_right full]

theorem pop?_pending_of_pos
    {stack : CallStack} (called : 0 < stack.depth) (bound : stack.depth ≤ capacity) :
    stack.pending.pop? = some (stack.top, stack.pop.pending) := by
  have split : stack.pending.callers = stack.top :: stack.pop.pending.callers := by
    rw [callers_pending, entries_eq_append_top stack called bound, List.reverse_append]
    rfl
  have whole : stack.pending =
      ⟨stack.top :: stack.pop.pending.callers, split ▸ stack.pending.few⟩ :=
    Pending.ext_callers split
  rw [whole]
  rfl

theorem pop?_pending_of_zero {stack : CallStack} (none : stack.depth = 0) :
    stack.pending.pop? = .none := by
  have whole : stack.pending = Pending.empty := by
    apply Pending.ext_callers
    simp [pending, entries, none, Pending.empty]
  rw [whole]
  rfl

end CallStack

/-! ## A machine with a list for a stack -/

/-- A machine whose stack is a list.  Its core has every other component, and an empty stack that
nothing is ever added to. -/
structure ListMachine where
  core : Machine
  pending : Pending

/-- What came of an operation on a machine with a list. -/
structure ListOutcome where
  machine : ListMachine
  result : Except Fault Unit
  notices : List Notice

namespace ListMachine

open Machine (Action)

def start (program : Array UInt8) (random : Random) : ListMachine :=
  ⟨Machine.start program random, Pending.empty⟩

/-- The machine after an instruction and what it told, or its fault. -/
def carryOut (machine : ListMachine) : Instruction → Except Fault (ListMachine × List Notice)
  | .ret =>
      match machine.pending.pop? with
      | some (caller, earlier) =>
          .ok (⟨{ machine.core with pc := caller + 2 }, earlier⟩,
            [.returned machine.core.pc caller])
      | none => .error (.stackUnderflow machine.core.pc)
  | .call target =>
      match machine.pending.push? machine.core.pc with
      | some pending =>
          .ok (⟨{ machine.core with pc := target.toUInt16 }, pending⟩,
            [.called target.toUInt16 machine.core.pc])
      | none => .error (.stackOverflow machine.core.pc)
  | instruction =>
      match machine.core.fault? instruction with
      | some fault => .error fault
      | none =>
          .ok (⟨machine.core.execute instruction, machine.pending⟩,
            machine.core.executionNotices instruction)

def halt (machine : ListMachine) (fault : Fault) (notices : List Notice) : ListOutcome :=
  ⟨{ machine with core := { machine.core with halted := true } }, .error fault,
    notices ++ [.halting fault]⟩

/-- A step of a machine that is not halted. -/
def cycle (machine : ListMachine) : ListOutcome :=
  match machine.core.fetch? with
  | none => machine.halt (.fetchOutside machine.core.pc) []
  | some word =>
      let fetched := Notice.fetched machine.core.pc word
      match word.instruction? with
      | none => machine.halt (.unknownWord word machine.core.pc) [fetched]
      | some instruction =>
          match machine.carryOut instruction with
          | .error fault => machine.halt fault [fetched]
          | .ok (later, notices) =>
              ⟨{ later with core := later.core.tick }, .ok (), fetched :: notices⟩

def step (machine : ListMachine) : ListOutcome :=
  if machine.core.halted then ⟨machine, .error .halted, []⟩ else machine.cycle

def perform (machine : ListMachine) : Action → ListOutcome
  | .load program =>
      if Memory.programCapacity < program.size then
        ⟨machine, .error (.programTooLarge program.size), []⟩
      else
        ⟨start program machine.core.random, .ok (),
          [.machineReset, .programLoaded program.size]⟩
  | .reset => ⟨start #[] machine.core.random, .ok (), [.machineReset]⟩
  | .step => machine.step
  | .key change =>
      let keypad := machine.core.keypad.apply change
      ⟨{ machine with core := { machine.core with keypad := keypad } }, .ok (), []⟩
  | .takeRedraw =>
      let screen := machine.core.screen.takeRedraw
      ⟨{ machine with core := { machine.core with screen := screen } }, .ok (), []⟩

def performAll (machine : ListMachine) (actions : List Action) : ListMachine :=
  actions.foldl (fun machine action => (machine.perform action).machine) machine

/-- What the host can read; the depth is the length of the list. -/
def view (machine : ListMachine) : Machine.View :=
  { machine.core.view with depth := machine.pending.callers.length }

def reply (machine : ListMachine) (action : Action) : Machine.Reply where
  result := (machine.perform action).result
  flag? := Machine.takenFlag? machine.core.screen action
  notices := (machine.perform action).notices
  view := (machine.perform action).machine.view

def replies : ListMachine → List Action → List Machine.Reply
  | _, [] => []
  | machine, action :: rest =>
      machine.reply action :: (machine.perform action).machine.replies rest

end ListMachine

/-! ## The listed machine does the same -/

/-- The instructions that use the stack. -/
def Instruction.usesStack : Instruction → Bool
  | .ret | .call _ => true
  | _ => false

/-- The machine with the slots in use as a list. -/
def Machine.listed (machine : Machine) : ListMachine :=
  ⟨{ machine with stack := CallStack.empty }, machine.stack.pending⟩

def Outcome.listed (outcome : Outcome) : ListOutcome :=
  ⟨outcome.machine.listed, outcome.result, outcome.notices⟩

namespace Machine

section Plain

variable {instruction : Instruction}

/-- An instruction that does not use the stack has the same fault on any. -/
theorem fault?_withStack
    (plain : instruction.usesStack = false) (machine : Machine) (stack : CallStack) :
    { machine with stack := stack }.fault? instruction = machine.fault? instruction := by
  cases instruction with
  | ret => cases plain
  | call target => cases plain
  | _ => rfl

theorem execute_withStack
    (plain : instruction.usesStack = false) (machine : Machine) (stack : CallStack) :
    { machine with stack := stack }.execute instruction =
      { machine.execute instruction with stack := stack } := by
  cases instruction with
  | ret => cases plain
  | call target => cases plain
  | waitKey x => rw [execute_waitKey, execute_waitKey]; rfl
  | arithmetic operation x y => cases operation <;> rfl
  | loadRegisters x => rw [execute_loadRegisters, execute_loadRegisters]; rfl
  | _ => rfl

theorem stack_execute_of_plain (plain : instruction.usesStack = false) (machine : Machine) :
    (machine.execute instruction).stack = machine.stack := by
  rw [execute_stack]
  cases instruction with
  | ret => cases plain
  | call target => cases plain
  | _ => rfl

theorem executionNotices_withStack
    (plain : instruction.usesStack = false) (machine : Machine) (stack : CallStack) :
    { machine with stack := stack }.executionNotices instruction =
      machine.executionNotices instruction := by
  cases instruction with
  | ret => cases plain
  | call target => cases plain
  | _ => rfl

/-- An instruction that does not use the stack is carried out alike without one. -/
theorem carryOut_listed_of_plain
    (plain : instruction.usesStack = false) (machine : Machine) :
    machine.listed.carryOut instruction =
      match machine.fault? instruction with
      | some fault => .error fault
      | none =>
          .ok ((machine.execute instruction).listed, machine.executionNotices instruction) := by
  have carried : machine.listed.carryOut instruction =
      match machine.listed.core.fault? instruction with
      | some fault => .error fault
      | none =>
          .ok (⟨machine.listed.core.execute instruction, machine.listed.pending⟩,
            machine.listed.core.executionNotices instruction) := by
    cases instruction with
    | ret => cases plain
    | call target => cases plain
    | _ => rfl
  have after :
      (⟨machine.listed.core.execute instruction, machine.listed.pending⟩ : ListMachine) =
        (machine.execute instruction).listed := by
    rw [listed, listed, stack_execute_of_plain plain machine]
    exact congrArg (ListMachine.mk · machine.stack.pending)
      (execute_withStack plain machine CallStack.empty)
  have sameFault : machine.listed.core.fault? instruction = machine.fault? instruction :=
    fault?_withStack plain machine CallStack.empty
  have sameNotices : machine.listed.core.executionNotices instruction =
      machine.executionNotices instruction :=
    executionNotices_withStack plain machine CallStack.empty
  rw [carried, after, sameFault, sameNotices]

end Plain

namespace Bounded

variable {machine : Machine}

/-- The listed machine carries an instruction out as the machine does. -/
theorem carryOut_listed (bounded : machine.Bounded) (instruction : Instruction) :
    machine.listed.carryOut instruction =
      match machine.fault? instruction with
      | some fault => .error fault
      | none =>
          .ok ((machine.execute instruction).listed, machine.executionNotices instruction) := by
  cases instruction with
  | ret =>
      by_cases none : machine.stack.depth = 0
      · simp [listed, ListMachine.carryOut, CallStack.pop?_pending_of_zero none, fault?, none]
      · have called : 0 < machine.stack.depth := Nat.pos_of_ne_zero none
        simp [listed, ListMachine.carryOut,
          CallStack.pop?_pending_of_pos called bounded.depth_le, fault?, none, execute,
          executionNotices, next, advance]
  | call target =>
      by_cases full : CallStack.capacity ≤ machine.stack.depth
      · simp [listed, ListMachine.carryOut, CallStack.push?_pending_of_le full, fault?, full]
      · have room : machine.stack.depth < CallStack.capacity := Nat.not_le.mp full
        simp [listed, ListMachine.carryOut, CallStack.push?_pending_of_lt room, fault?, full,
          execute, executionNotices]
  | _ => exact carryOut_listed_of_plain rfl machine

/-- The listed machine runs a cycle as the machine does. -/
theorem cycle_listed (bounded : machine.Bounded) (running : machine.halted = false) :
    machine.listed.cycle = machine.step.listed := by
  have fetch : machine.listed.core.fetch? = machine.fetch? := rfl
  rw [ListMachine.cycle, fetch]
  cases fetched : machine.fetch? with
  | none =>
      rw [step_eq_of_fetch?_none running fetched]
      rfl
  | some word =>
      cases decoded : word.instruction? with
      | none =>
          have upcoming : machine.upcoming = .error (.unknownWord word machine.pc) := by
            simp [Machine.upcoming, fetched, decoded]
          rw [step_eq_of_upcoming_error running fetched upcoming]
          simp only [decoded]
          rfl
      | some instruction =>
          have carried := bounded.carryOut_listed instruction
          cases fault : machine.fault? instruction with
          | some found =>
              have upcoming : machine.upcoming = .error found := by
                simp [Machine.upcoming, fetched, decoded, fault]
              rw [fault] at carried
              simp only [decoded, carried]
              rw [step_eq_of_upcoming_error running fetched upcoming]
              rfl
          | none =>
              have upcoming : machine.upcoming = .ok instruction := by
                simp [Machine.upcoming, fetched, decoded, fault]
              rw [fault] at carried
              simp only [decoded, carried]
              rw [step_eq_of_upcoming_ok running fetched upcoming]
              rfl

/-- The listed machine answers an action as the machine does, and is listed as before after it. -/
theorem perform_listed (bounded : machine.Bounded) (action : Action) :
    machine.listed.perform action = (machine.perform action).listed := by
  cases action with
  | load program =>
      by_cases large : Memory.programCapacity < program.size
      · simp only [ListMachine.perform, Machine.perform, load, if_pos large]
        rfl
      · simp only [ListMachine.perform, Machine.perform, load, if_neg large]
        rfl
  | reset => rfl
  | step =>
      show machine.listed.step = machine.step.listed
      rw [ListMachine.step]
      cases halted : machine.halted with
      | true =>
          have stopped : machine.listed.core.halted = true := halted
          rw [if_pos stopped, step_of_halted halted]
          rfl
      | false =>
          have running : ¬ machine.listed.core.halted = true := by
            rw [Bool.not_eq_true]
            exact halted
          rw [if_neg running]
          exact bounded.cycle_listed halted
  | key change => rfl
  | takeRedraw => rfl

/-- Every action does the same on the list of pending calls as on the slots. -/
theorem machine_perform_listed (bounded : machine.Bounded) (action : Action) :
    (machine.listed.perform action).machine = (machine.perform action).machine.listed :=
  congrArg ListOutcome.machine (bounded.perform_listed action)

theorem view_listed (bounded : machine.Bounded) : machine.listed.view = machine.view := by
  have depth : machine.listed.pending.callers.length = machine.stack.depth :=
    CallStack.length_pending machine.stack bounded.depth_le
  rw [ListMachine.view, depth]
  rfl

theorem reply_listed (bounded : machine.Bounded) (action : Action) :
    machine.listed.reply action = machine.reply action := by
  rw [ListMachine.reply, bounded.perform_listed action]
  show Reply.mk _ _ _ (machine.perform action).machine.listed.view = _
  rw [(bounded.perform action).view_listed]
  rfl

/-! ## Runs -/

theorem performAll_listed (bounded : machine.Bounded) (actions : List Action) :
    machine.listed.performAll actions = (machine.performAll actions).listed := by
  induction actions generalizing machine with
  | nil => rfl
  | cons action rest later =>
      show (machine.listed.perform action).machine.performAll rest = _
      rw [bounded.machine_perform_listed action]
      exact later (bounded.perform action)

/-- Runs get the same replies with the list of pending calls. -/
theorem replies_listed (bounded : machine.Bounded) (actions : List Action) :
    machine.listed.replies actions = machine.replies actions := by
  induction actions generalizing machine with
  | nil => rfl
  | cons action rest later =>
      rw [ListMachine.replies, replies_cons, bounded.reply_listed action,
        bounded.machine_perform_listed action]
      exact congrArg _ (later (bounded.perform action))

end Bounded

/-! ## Stale slots -/

/-- The machines are the same in every component, except perhaps in slots that are not in use. -/
structure SameInUse (first second : Machine) : Prop where
  others : { first with stack := second.stack } = second
  depth : first.stack.depth = second.stack.depth
  slots : ∀ slot : Fin 16, slot.val < first.stack.depth →
    first.stack.slots.get slot = second.stack.slots.get slot

/-- Machines that agree on the entries in use have the same list of pending calls. -/
theorem SameInUse.listed_eq {first second : Machine} (same : first.SameInUse second) :
    first.listed = second.listed := by
  have others : { first with stack := CallStack.empty } =
      { second with stack := CallStack.empty } := by
    rw [← same.others]
  have entries : first.stack.entries = second.stack.entries :=
    CallStack.entries_eq_of_slots same.depth same.slots
  have pending : first.stack.pending = second.stack.pending :=
    Pending.ext_callers (congrArg List.reverse entries)
  rw [listed, listed, others, pending]

/-- Machines that are listed as the same machine differ in stale slots only. -/
theorem Bounded.sameInUse_of_listed
    {first second : Machine} (firstBounded : first.Bounded) (secondBounded : second.Bounded)
    (same : first.listed = second.listed) : first.SameInUse second := by
  have others := congrArg ListMachine.core same
  have entries : first.stack.entries = second.stack.entries :=
    List.reverse_inj.mp (congrArg (fun machine => machine.pending.callers) same)
  have depth : first.stack.depth = second.stack.depth := by
    rw [← first.stack.length_entries firstBounded.depth_le,
      ← second.stack.length_entries secondBounded.depth_le, entries]
  refine ⟨?_, depth, ?_⟩
  · exact congrArg (fun machine => { machine with stack := second.stack }) others
  · intro slot used
    have item := first.stack.getElem?_entries slot
    rw [entries, second.stack.getElem?_entries slot, ← depth, if_pos used, if_pos used] at item
    exact (Option.some.inj item).symm

/--
No action reads a stale slot.  Two reachable machines that differ in stale slots only give the same
replies to whatever is done to both, results, notices and all that can be read after each action,
and differ in stale slots only after it.  And the run of such a machine is that of the machine with
a list of at most sixteen addresses for a stack: the replies are the same, and so is, at the end,
every component but the stack, whose entries are the list.
-/
theorem stale_slots_unread
    {first second : Machine} (firstReachable : first.Reachable)
    (secondReachable : second.Reachable) (same : first.SameInUse second) (actions : List Action) :
    first.replies actions = second.replies actions ∧
      (first.performAll actions).SameInUse (second.performAll actions) ∧
      first.listed.replies actions = first.replies actions ∧
      first.listed.performAll actions = (first.performAll actions).listed := by
  have firstBounded := firstReachable.bounded
  have secondBounded := secondReachable.bounded
  have listed := same.listed_eq
  refine ⟨?_, ?_, firstBounded.replies_listed actions, firstBounded.performAll_listed actions⟩
  · calc
      first.replies actions = first.listed.replies actions :=
        (firstBounded.replies_listed actions).symm
      _ = second.listed.replies actions := by rw [listed]
      _ = second.replies actions := secondBounded.replies_listed actions
  · apply Bounded.sameInUse_of_listed
    · exact (firstReachable.performAll actions).bounded
    · exact (secondReachable.performAll actions).bounded
    · rw [← firstBounded.performAll_listed, ← secondBounded.performAll_listed, listed]

/-- A loop that takes a detour through a subroutine while the first key is down. -/
def detour : Array UInt8 :=
  #[0xE0, 0x9E, 0x12, 0x08, 0x22, 0x0A, 0x12, 0x08, 0x12, 0x00, 0x00, 0xEE]

/-- A machine at the end of the loop, in which no subroutine was called. -/
def straight : Machine :=
  (create (Random.ofSeed 0)).machine.performAll [.load detour, .step, .step]

/-- A machine at the end of the loop that came back from the subroutine. -/
def returned : Machine :=
  (create (Random.ofSeed 0)).machine.performAll
    [.load detour, .key (.press 0), .step, .step, .step, .step, .key (.release 0)]

set_option maxRecDepth 100000 in
theorem sameInUse_straight_returned : straight.SameInUse returned where
  others := rfl
  depth := rfl
  slots slot used := by
    have shallow : straight.stack.depth = 0 := rfl
    rw [shallow] at used
    cases used

/-- The next round of the loop, with the detour. -/
def nextRound : List Action :=
  [.step, .key (.press 0), .step, .step, .step]

/-- A machine that returned from a call differs from one that never called in a slot, and in no
reply. -/
theorem stale_slots_unread_returned :
    straight.Reachable ∧ returned.Reachable ∧ straight.SameInUse returned ∧
      straight.stack.slots.get 0 ≠ returned.stack.slots.get 0 ∧
      straight.replies nextRound = returned.replies nextRound ∧
      (straight.performAll nextRound).SameInUse (returned.performAll nextRound) := by
  have first : straight.Reachable := ⟨_, _, rfl⟩
  have second : returned.Reachable := ⟨_, _, rfl⟩
  have same : straight.SameInUse returned := sameInUse_straight_returned
  have stale : straight.stack.slots.get 0 ≠ returned.stack.slots.get 0 := by decide +kernel
  rcases stale_slots_unread first second same nextRound with ⟨replies, later, _, _⟩
  exact ⟨first, second, same, stale, replies, later⟩

end Machine

end ChipEight
