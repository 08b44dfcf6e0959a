import ChipEight.Proofs.Reachable

/-!
# What the host sees

A host gets an answer to each of its actions and may then read any component of the machine that is
open to it: all of them but the slots of the stack, of which only the depth can be read, and the
random source.  `replies` collects all this along a run, so two machines with the same replies to
all actions cannot be told apart.
-/

namespace ChipEight.Machine

/-- Everything that the host can read of a machine. -/
structure View where
  pc : UInt16
  index : UInt16
  registers : Vector UInt8 16
  memory : Memory
  depth : Nat
  delay : UInt8
  sound : UInt8
  screen : Screen
  keypad : Keypad
  halted : Bool

def view (machine : Machine) : View where
  pc := machine.pc
  index := machine.index
  registers := machine.registers
  memory := machine.memory
  depth := machine.stack.depth
  delay := machine.delay
  sound := machine.sound
  screen := machine.screen
  keypad := machine.keypad
  halted := machine.halted

/-- What comes back from an action, and what can be read after it. -/
structure Reply where
  result : Except Fault Unit
  /-- The redraw flag, if the action takes it. -/
  flag? : Option Bool
  notices : List Notice
  view : View

/-- The redraw flag that an action hands over. -/
def takenFlag? (screen : Screen) : Action → Option Bool
  | .takeRedraw => some screen.redraw
  | _ => none

def reply (machine : Machine) (action : Action) : Reply where
  result := (machine.perform action).result
  flag? := takenFlag? machine.screen action
  notices := (machine.perform action).notices
  view := (machine.perform action).machine.view

/-! ## Along a run -/

/-- What the actions of a run contribute, one after the other. -/
def along {α : Type} (contribution : Machine → Action → List α) : Machine → List Action → List α
  | _, [] => []
  | machine, action :: rest =>
      contribution machine action ++ along contribution (machine.perform action).machine rest

/-- The replies to the actions of a run. -/
def replies : Machine → List Action → List Reply :=
  along fun machine action => [machine.reply action]

section Along

variable {α : Type} (contribution : Machine → Action → List α) (machine : Machine)

@[simp]
theorem along_cons (action : Action) (rest : List Action) :
    along contribution machine (action :: rest) =
      contribution machine action ++ along contribution (machine.perform action).machine rest :=
  rfl

theorem along_append (first second : List Action) :
    along contribution machine (first ++ second) =
      along contribution machine first ++
        along contribution (machine.performAll first) second := by
  induction first generalizing machine with
  | nil => rfl
  | cons action rest later =>
      rw [List.cons_append, along_cons, along_cons, later, List.append_assoc]
      rfl

end Along

theorem replies_cons (machine : Machine) (action : Action) (rest : List Action) :
    machine.replies (action :: rest) =
      machine.reply action :: (machine.perform action).machine.replies rest :=
  rfl

end ChipEight.Machine
