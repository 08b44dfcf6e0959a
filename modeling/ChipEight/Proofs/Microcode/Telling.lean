import ChipEight.Proofs.Encoding
import ChipEight.Proofs.Microcode.Actions

/-!
# The microprograms with what they tell

The microprograms again, on a machine together with what it told so far.  Every notice is told at
its own place among the reads and writes: a return after the depth was lowered and before the
program counter moves, a call after its address was written, a fetched word before its instruction,
and a fault before the machine halts.  A program that stops keeps what it told until then.

On a machine within the bounds an action tells in this way exactly the notices of the action.
-/

namespace ChipEight.Micro

/-- A program of operations on a machine that tells of its work. -/
abbrev Telling (α : Type) : Type :=
  EStateM Stop (Machine × List Notice) α

namespace Telling

variable {α : Type}

/-- Operations that tell nothing. -/
def quietly (program : Micro α) : Telling α := fun state =>
  match program.run state.1 with
  | .ok value later => .ok value (later, state.2)
  | .error stop later => .error stop (later, state.2)

def tell (notice : Notice) : Telling Unit :=
  modify fun state => (state.1, state.2 ++ [notice])

@[simp]
theorem run_quietly (program : Micro α) (machine : Machine) (told : List Notice) :
    (quietly program).run (machine, told) =
      match program.run machine with
      | .ok value later => .ok value (later, told)
      | .error stop later => .error stop (later, told) :=
  rfl

@[simp]
theorem run_tell (notice : Notice) (machine : Machine) (told : List Notice) :
    (tell notice).run (machine, told) = .ok () (machine, told ++ [notice]) :=
  rfl

/-! ## Instructions -/

def ret : Telling Unit := do
  let machine ← quietly get
  if machine.stack.depth = 0 then quietly (fail (.stackUnderflow machine.pc))
  else
    quietly lowerDepth
    let caller ← quietly do readSlot (← get).stack.depth
    tell (.returned (← quietly get).pc caller)
    quietly (goto caller)
    quietly next

def call (word : Word) : Telling Unit := do
  let machine ← quietly get
  if CallStack.capacity ≤ machine.stack.depth then quietly (fail (.stackOverflow machine.pc))
  else
    quietly (writeSlot machine.stack.depth machine.pc)
    quietly raiseDepth
    tell (.called word.nnn.toUInt16 (← quietly get).pc)
    quietly (goto word.nnn.toUInt16)

def waitKey (word : Word) : Telling Unit := do
  match (← quietly get).keypad.first? with
  | some key =>
      tell (.waitEnded key (← quietly get).pc)
      quietly (writeRegister word.x (UInt8.ofNat key.val))
      quietly next
  | none => pure ()

/-- Calls, returns and waits tell something, all other words are handled quietly. -/
def handle (word : Word) : Telling Unit :=
  match word.instruction? with
  | some .ret => ret
  | some (.call _) => call word
  | some (.waitKey _) => waitKey word
  | _ => quietly (Micro.handle word)

/-- The program performs the instruction and tells its notices, or stops and tells nothing. -/
def Tells (program : Telling Unit) (machine : Machine) (instruction : Instruction) : Prop :=
  ∀ told, program.run (machine, told) =
    match machine.fault? instruction with
    | some fault => .error (.fault fault) (machine, told)
    | none => .ok () (machine.execute instruction, told ++ machine.executionNotices instruction)

section Tells

variable {machine : Machine}

/-- A program that performs an instruction without notices tells it by keeping quiet. -/
theorem tells_quietly {program : Micro Unit} {instruction : Instruction}
    (performs : Performs program machine instruction)
    (quiet : machine.executionNotices instruction = []) :
    Tells (quietly program) machine instruction := by
  intro told
  rw [Performs] at performs
  rw [run_quietly, performs, quiet, List.append_nil]
  cases machine.fault? instruction <;> rfl

theorem ret_tells (bounded : machine.Bounded) : Tells ret machine .ret := by
  intro told
  by_cases empty : machine.stack.depth = 0
  · simp [ret, empty, Machine.fault?]
  · have pending : 0 < machine.stack.depth := Nat.pos_of_ne_zero empty
    have inside : machine.stack.pop.depth < CallStack.capacity :=
      Nat.lt_of_lt_of_le (Nat.sub_lt pending Nat.one_pos) bounded.depth_le
    have caller : machine.stack.top.toNat ≤ 0xFFE := bounded.top_le pending
    have top : machine.stack.pop.slots[machine.stack.pop.depth]?.getD 0 = machine.stack.top :=
      rfl
    simp [ret, empty, Machine.fault?, run_lowerDepth pending bounded.depth_le,
      run_readSlot inside, top, run_next, caller, Machine.execute, Machine.executionNotices]

theorem call_tells (word : Word) : Tells (call word) machine (.call word.nnn) := by
  intro told
  by_cases full : CallStack.capacity ≤ machine.stack.depth
  · simp [call, full, Machine.fault?]
  · have room : machine.stack.depth < CallStack.capacity := Nat.not_le.mp full
    simp [call, full, Machine.fault?, run_writeSlot room, run_raiseDepth, room,
      Machine.execute, Machine.executionNotices, CallStack.push]

theorem waitKey_tells (here : machine.pc.toNat ≤ 0xFFE) (word : Word) :
    Tells (waitKey word) machine (.waitKey word.x) := by
  intro told
  cases first : machine.keypad.first? with
  | none => simp [waitKey, first, Machine.fault?, Machine.execute, Machine.executionNotices]
  | some key =>
      simp [waitKey, first, Machine.fault?, Machine.execute, Machine.executionNotices, run_next,
        here]

/-- Whatever the instruction, its program tells what the instruction tells. -/
theorem handle_tells
    (bounded : machine.Bounded) (here : machine.pc.toNat ≤ 0xFFE) {word : Word}
    {instruction : Instruction} (decoded : word.instruction? = some instruction) :
    Tells (handle word) machine instruction := by
  have performs : Performs (Micro.handle word) machine instruction := by
    have follows := handle_follows bounded here word
    rwa [decoded] at follows
  have operands := Word.operandsFrom_of_instruction? decoded
  rw [handle, decoded]
  cases instruction with
  | ret => exact ret_tells bounded
  | call target =>
      cases operands
      exact call_tells word
  | waitKey x =>
      cases operands
      exact waitKey_tells here word
  | _ => exact tells_quietly performs rfl

end Tells

/-! ## Actions -/

def cycle : Telling Unit := do
  let word ← quietly fetch
  tell (.fetched (← quietly get).pc word)
  handle word
  quietly (modify Machine.tick)

/-- A cycle, whose fault is told before the machine halts. -/
def step : Telling Unit := fun state =>
  if state.1.halted then .error (.fault .halted) state
  else
    match cycle.run state with
    | .error (.fault fault) later =>
        .error (.fault fault) ({ later.1 with halted := true }, later.2 ++ [.halting fault])
    | outcome => outcome

def reset : Telling Unit := do
  quietly Micro.reset
  tell .machineReset

def load (program : Array UInt8) : Telling Unit := do
  if Memory.programCapacity < program.size then quietly (fail (.programTooLarge program.size))
  else
    reset
    quietly (writeRange Memory.programStart program.size program.toList)
    tell (.programLoaded program.size)

def perform : Machine.Action → Telling Unit
  | .load program => load program
  | .reset => reset
  | .step => step
  | .key change => quietly (changeKeys change)
  | .takeRedraw => quietly (Micro.perform .takeRedraw)

/-- What a program leaves behind, also when it stops. -/
def after (program : Telling Unit) (state : Machine × List Notice) : Machine × List Notice :=
  match program.run state with
  | .ok _ later => later
  | .error _ later => later

section Actions

variable {machine : Machine}

/-- A cycle tells the word that it fetched, and then what the instruction tells. -/
theorem run_cycle (bounded : machine.Bounded) (told : List Notice) :
    cycle.run (machine, told) =
      match machine.upcoming with
      | .ok instruction =>
          .ok () ((machine.execute instruction).tick,
            told ++ (machine.fetchNotices ++ machine.executionNotices instruction))
      | .error fault => .error (.fault fault) (machine, told ++ machine.fetchNotices) := by
  cases fetched : machine.fetch? with
  | none => simp [cycle, run_fetch, fetched, Machine.upcoming, Machine.fetchNotices]
  | some word =>
      have here : machine.pc.toNat ≤ 0xFFE :=
        ((Machine.fetch?_eq_some_iff machine word).mp fetched).1
      cases decoded : word.instruction? with
      | none =>
          have follows := handle_follows bounded here word
          rw [decoded] at follows
          have refused : (Micro.handle word).run machine =
            .error (.fault (.unknownWord word machine.pc)) machine := follows
          simp [cycle, run_fetch, fetched, handle, decoded, refused, Machine.upcoming,
            Machine.fetchNotices]
      | some instruction =>
          have tells := handle_tells bounded here decoded
          rw [Tells] at tells
          cases fault : machine.fault? instruction with
          | none =>
              simp [cycle, run_fetch, fetched, tells, Machine.upcoming, decoded, fault,
                Machine.fetchNotices]
          | some found =>
              simp [cycle, run_fetch, fetched, tells, Machine.upcoming, decoded, fault,
                Machine.fetchNotices]

/-- The checked step tells what the step tells. It handles the failure of its cycle itself, which no
lemma of the single operations covers. -/
theorem after_step (bounded : machine.Bounded) (told : List Notice) :
    after step (machine, told) = (machine.step.machine, told ++ machine.step.notices) := by
  have opened : step.run (machine, told) =
      if machine.halted then .error (.fault .halted) (machine, told)
      else
        match cycle.run (machine, told) with
        | .error (.fault fault) later =>
            .error (.fault fault) ({ later.1 with halted := true }, later.2 ++ [.halting fault])
        | outcome => outcome := by
    rfl
  rw [after, opened, run_cycle bounded]
  cases halted : machine.halted with
  | true => simp [Machine.step, halted]
  | false =>
      cases upcoming : machine.upcoming with
      | ok instruction => simp [Machine.step, halted, upcoming]
      | error fault => simp [Machine.step, halted, upcoming]

theorem run_reset (machine : Machine) (told : List Notice) :
    reset.run (machine, told) =
      .ok () (Machine.start #[] machine.random, told ++ [.machineReset]) := by
  simp [reset, Micro.run_reset]

theorem after_load (program : Array UInt8) (told : List Notice) :
    after (load program) (machine, told) =
      ((machine.load program).machine, told ++ (machine.load program).notices) := by
  have loaded := Micro.run_load program machine
  by_cases large : Memory.programCapacity < program.size
  · simp [after, load, large, Machine.load]
  · rw [if_neg large] at loaded
    have written : (writeRange Memory.programStart program.size program.toList).run
        (Machine.start #[] machine.random) = .ok () (Machine.start program machine.random) := by
      simpa [Micro.load, large, Micro.run_reset] using loaded
    simp [after, load, large, Machine.load, run_reset, written]

/-- The microprogram of an action tells the notices of the action. -/
theorem after_perform (bounded : machine.Bounded) (action : Machine.Action)
    (told : List Notice) :
    after (perform action) (machine, told) =
      ((machine.perform action).machine, told ++ (machine.perform action).notices) := by
  cases action with
  | load program => exact after_load program told
  | reset => rw [after, perform, run_reset]; rfl
  | step => exact after_step bounded told
  | key change =>
      rw [after, perform, run_quietly, run_changeKeys]
      exact congrArg (Prod.mk _) (List.append_nil told).symm
  | takeRedraw => exact congrArg (Prod.mk _) (List.append_nil told).symm

end Actions

end Telling

end ChipEight.Micro
