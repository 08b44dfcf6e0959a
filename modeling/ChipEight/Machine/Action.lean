import ChipEight.Machine.Execution

/-!
# Steps, runs and actions

A step fetches a word, reads it as an instruction and carries the instruction out; then both
timers count down, also while the machine waits for a key.  When any part of this fails, nothing
of it happens, except that the machine halts: from then on every step fails without a word until
the machine is reset.

A run repeats steps up to a limit, until the machine reaches a condition or a step fails.

Steps are among the actions, which are all that can be done to a machine from outside.  The
machines of a lifetime are those that some sequence of actions makes of a new machine.
-/

namespace ChipEight.Machine

/-! ## Steps -/

/-- The word at the program counter, if both its bytes lie in memory. -/
def fetch? (machine : Machine) : Option Word :=
  if machine.pc.toNat + 1 < Memory.size then
    some (Word.ofBytes (machine.memory.read machine.pc.toNat)
      (machine.memory.read (machine.pc.toNat + 1)))
  else none

/-- The instruction that a step of the machine would carry out, or why there is none. -/
def upcoming (machine : Machine) : Except Fault Instruction :=
  match machine.fetch? with
  | none => .error (.fetchOutside machine.pc)
  | some word =>
      match word.instruction? with
      | none => .error (.unknownWord word machine.pc)
      | some instruction =>
          match machine.fault? instruction with
          | some fault => .error fault
          | none => .ok instruction

def countDown (timer : UInt8) : UInt8 :=
  if timer = 0 then 0 else timer - 1

def tick (machine : Machine) : Machine :=
  { machine with delay := countDown machine.delay, sound := countDown machine.sound }

/-- What a step tells about the word it fetched. -/
def fetchNotices (machine : Machine) : List Notice :=
  match machine.fetch? with
  | some word => [.fetched machine.pc word]
  | none => []

def step (machine : Machine) : Outcome :=
  if machine.halted then ⟨machine, .error .halted, []⟩
  else
    match machine.upcoming with
    | .ok instruction =>
        let notices := machine.fetchNotices ++ machine.executionNotices instruction
        ⟨(machine.execute instruction).tick, .ok (), notices⟩
    | .error fault =>
        ⟨{ machine with halted := true }, .error fault,
          machine.fetchNotices ++ [.halting fault]⟩

/-! ## Runs -/

/-- What came of a run: how it ended and how many of its steps succeeded. -/
structure Run where
  outcome : Outcome
  steps : Nat

/-- Up to `limit` steps, ended early by a machine at which `stop` holds or by a fault. -/
def runUntil (stop : Machine → Bool) : Nat → Machine → Run
  | 0, machine => ⟨⟨machine, .ok (), []⟩, 0⟩
  | limit + 1, machine =>
      if stop machine then ⟨⟨machine, .ok (), []⟩, 0⟩
      else
        let first := machine.step
        match first.result with
        | .error _ => ⟨first, 0⟩
        | .ok () =>
            let later := runUntil stop limit first.machine
            ⟨{ later.outcome with notices := first.notices ++ later.outcome.notices },
              later.steps + 1⟩

/-- A number of steps, ended early by a fault. -/
def run (count : Nat) (machine : Machine) : Run :=
  machine.runUntil (fun _ => false) count

/-! ## Actions -/

inductive Action where
  | load (program : Array UInt8)
  | reset
  | step
  | key (change : Keypad.Change)
  | takeRedraw

def perform (machine : Machine) : Action → Outcome
  | .load program => machine.load program
  | .reset => machine.reset
  | .step => machine.step
  | .key change => ⟨{ machine with keypad := machine.keypad.apply change }, .ok (), []⟩
  | .takeRedraw => ⟨{ machine with screen := machine.screen.takeRedraw }, .ok (), []⟩

/-- The machine after a sequence of actions, failed ones included. -/
def performAll (machine : Machine) (actions : List Action) : Machine :=
  actions.foldl (fun machine action => (machine.perform action).machine) machine

end ChipEight.Machine
