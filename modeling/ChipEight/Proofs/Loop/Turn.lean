import ChipEight.Emulator.Loop
import ChipEight.Proofs.Link
import ChipEight.Proofs.Redraw

/-!
# What a turn of the loop can do

A turn has three outcomes.  It ends the loop because the host asked for that, it fails because its
step failed, or it makes its step and presents the frame; in the last case the loop goes on unless
a frame is due that nobody is there to take.

`ready` is the emulator when the turn looks for a request to quit, and `presenting` the emulator
after the step of the turn, when it looks for a frame that is due.  All that a turn does to the
machine and to the frames is said in terms of these two.
-/

namespace ChipEight

/-- All events of the host during one turn. -/
def Arrivals.events (arrivals : Arrivals) : List HostEvent :=
  arrivals.beforeKeys ++ arrivals.beforeQuit ++ arrivals.beforeFrame

/-- The machine with the keys of a mask, or with its own keys if there is no mask. -/
def Machine.withMask (machine : Machine) (mask? : Option UInt16) : Machine :=
  { machine with keypad := (mask?.map Keypad.ofMask).getD machine.keypad }

namespace Emulator

/-! ## Up to the step -/

@[simp]
theorem machine_receive (emulator : Emulator) (events : List HostEvent) :
    (emulator.receive events).machine = emulator.machine :=
  rfl

@[simp]
theorem link_receive (emulator : Emulator) (events : List HostEvent) :
    (emulator.receive events).link = emulator.link.map (·.afterAll events) :=
  rfl

@[simp]
theorem frames_receive (emulator : Emulator) (events : List HostEvent) :
    (emulator.receive events).frames = emulator.frames := by
  cases linked : emulator.link <;> simp [frames, linked]

/-- The latest of the masks that wait to be taken. -/
def latestMask? (emulator : Emulator) : Option UInt16 :=
  emulator.link.bind (·.keys.waiting.getLast?)

/-- Of the masks that wait, the last one is on the keypad afterwards. -/
@[simp]
theorem machine_takeKeys (emulator : Emulator) :
    emulator.takeKeys.machine = emulator.machine.withMask emulator.latestMask? := by
  cases linked : emulator.link with
  | none => simp [takeKeys, latestMask?, linked, Machine.withMask]
  | some link =>
      cases latest : link.keys.waiting.getLast? <;>
        simp [takeKeys, latestMask?, linked, latest, Machine.withMask]

@[simp]
theorem link_takeKeys (emulator : Emulator) :
    emulator.takeKeys.link = emulator.link.map Link.drainKeys := by
  cases linked : emulator.link <;> simp [takeKeys, linked]

@[simp]
theorem frames_takeKeys (emulator : Emulator) : emulator.takeKeys.frames = emulator.frames := by
  cases linked : emulator.link <;> simp [frames, linked, Link.drainKeys]

/-- The emulator of a turn when it looks for a request to quit. -/
def ready (emulator : Emulator) (arrivals : Arrivals) : Emulator :=
  ((emulator.receive arrivals.beforeKeys).takeKeys).receive arrivals.beforeQuit

theorem turn_eq (emulator : Emulator) (arrivals : Arrivals) :
    emulator.turn arrivals =
      if (emulator.ready arrivals).wantsQuit then (emulator.ready arrivals).quit
      else (emulator.ready arrivals).stepAndPresent arrivals.beforeFrame :=
  rfl

/-- The machine that steps in a turn has the last mask that waited on its keypad. -/
theorem machine_ready (emulator : Emulator) (arrivals : Arrivals) :
    (emulator.ready arrivals).machine =
      emulator.machine.withMask (emulator.receive arrivals.beforeKeys).latestMask? := by
  simp [ready]

theorem screen_ready (emulator : Emulator) (arrivals : Arrivals) :
    (emulator.ready arrivals).machine.screen = emulator.machine.screen := by
  rw [machine_ready]
  rfl

theorem frames_ready (emulator : Emulator) (arrivals : Arrivals) :
    (emulator.ready arrivals).frames = emulator.frames := by
  simp [ready]

/-! ## From the step on -/

/-- The emulator of a turn after its step, when it looks for a frame that is due. -/
def presenting (emulator : Emulator) (arrivals : Arrivals) : Emulator :=
  { emulator.ready arrivals with
    machine := (emulator.ready arrivals).machine.step.machine }.receive arrivals.beforeFrame

/-- The link when a frame may be sent has had all that arrived in the turn, and no masks left from
before. -/
theorem link_presenting (emulator : Emulator) (arrivals : Arrivals) :
    (emulator.presenting arrivals).link =
      emulator.link.map fun link =>
        ((link.afterAll arrivals.beforeKeys).drainKeys.afterAll arrivals.beforeQuit).afterAll
          arrivals.beforeFrame := by
  cases linked : emulator.link <;> simp [presenting, ready, linked]

/-- The host is linked and takes frames. -/
def displayListens (emulator : Emulator) : Bool :=
  emulator.link.any (·.displayPresent)

/-- The host is linked but has given up taking frames. -/
def displayLeft (emulator : Emulator) : Bool :=
  emulator.link.any (!·.displayPresent)

/-- The display still listens if it did and has not left in the turn. -/
theorem displayListens_presenting (emulator : Emulator) (arrivals : Arrivals) :
    (emulator.presenting arrivals).displayListens =
      (emulator.displayListens && decide (HostEvent.leaveDisplay ∉ arrivals.events)) := by
  rw [displayListens, displayListens, link_presenting]
  cases emulator.link <;>
    simp [Link.displayPresent_afterAll, Arrivals.events, Bool.and_assoc]

/-- The host takes no frames once it gave up its end. -/
theorem displayLeft_presenting_iff (emulator : Emulator) (arrivals : Arrivals) :
    (emulator.presenting arrivals).displayLeft = true ↔
      ∃ link, emulator.link = some link ∧
        (link.displayPresent = false ∨ .leaveDisplay ∈ arrivals.events) := by
  rw [displayLeft, link_presenting]
  cases emulator.link <;> simp [Link.displayPresent_afterAll, Arrivals.events, or_assoc]

theorem displayLeft_of_displayListens
    {emulator : Emulator} (listens : emulator.displayListens = true) :
    emulator.displayLeft = false := by
  cases linked : emulator.link with
  | none => simp [displayLeft, linked]
  | some link =>
      simp only [displayListens, linked, Option.any_some] at listens
      simp [displayLeft, linked, listens]

@[simp]
theorem machine_presenting (emulator : Emulator) (arrivals : Arrivals) :
    (emulator.presenting arrivals).machine = (emulator.ready arrivals).machine.step.machine :=
  rfl

theorem frames_presenting (emulator : Emulator) (arrivals : Arrivals) :
    (emulator.presenting arrivals).frames = emulator.frames := by
  rw [presenting, frames_receive]
  exact frames_ready emulator arrivals

/-- Presenting takes the flag and nothing else from the machine. -/
theorem machine_present (emulator : Emulator) :
    emulator.present.emulator.machine = emulator.machine.withRedraw false := by
  cases due : emulator.machine.screen.redraw with
  | false =>
      have kept : emulator.machine = emulator.machine.withRedraw false :=
        congrArg emulator.machine.withRedraw due
      rw [present, due, if_neg Bool.false_ne_true]
      exact kept
  | true =>
      cases linked : emulator.link with
      | none => simp [present, due, linked, Screen.takeRedraw, Machine.withRedraw]
      | some link =>
          cases listens : link.displayPresent <;>
            simp [present, due, linked, listens, Screen.takeRedraw, Machine.withRedraw]

/-- A frame that is due stops the loop exactly if the display has left. -/
theorem progress_present (emulator : Emulator) :
    emulator.present.progress =
      if emulator.machine.screen.redraw && emulator.displayLeft then .stopped else .running := by
  cases due : emulator.machine.screen.redraw with
  | false => simp [present, due]
  | true =>
      cases linked : emulator.link with
      | none => simp [present, due, linked, displayLeft]
      | some link =>
          cases listens : link.displayPresent <;>
            simp [present, due, linked, listens, displayLeft]

/-- A frame that is due is sent to a display that listens. -/
theorem frames_present (emulator : Emulator) :
    emulator.present.emulator.frames =
      emulator.frames ++
        if emulator.machine.screen.redraw && emulator.displayListens then
          [emulator.machine.screen.frame]
        else [] := by
  cases due : emulator.machine.screen.redraw with
  | false => simp [present, due]
  | true =>
      cases linked : emulator.link with
      | none => simp [present, due, linked, displayListens, frames]
      | some link =>
          cases listens : link.displayPresent <;>
            simp [present, due, linked, listens, displayListens, frames, Link.sendFrame,
              Screen.takeRedraw]

theorem displayListens_present (emulator : Emulator) :
    emulator.present.emulator.displayListens = emulator.displayListens := by
  cases due : emulator.machine.screen.redraw with
  | false => simp [present, due]
  | true =>
      cases linked : emulator.link with
      | none => simp [present, due, linked, displayListens]
      | some link =>
          cases listens : link.displayPresent <;>
            simp [present, due, linked, listens, displayListens, Link.sendFrame]

/-! ## The three outcomes of a turn -/

section Outcomes

variable {emulator : Emulator} {arrivals : Arrivals}

/-- A turn that finds a request to quit does no more than take the keys. -/
theorem turn_of_wantsQuit (quits : (emulator.ready arrivals).wantsQuit = true) :
    (emulator.turn arrivals).progress = .stopped ∧
      (emulator.turn arrivals).emulator.machine = (emulator.ready arrivals).machine ∧
      (emulator.turn arrivals).emulator.frames = emulator.frames := by
  have ended : emulator.turn arrivals = (emulator.ready arrivals).quit := if_pos quits
  rw [ended]
  refine ⟨rfl, rfl, ?_⟩
  rw [← frames_ready emulator arrivals]
  cases linked : (emulator.ready arrivals).link <;>
    simp [quit, frames, linked, Link.acknowledgeQuit]

/-- A turn whose step fails does no more after it. -/
theorem turn_of_fault
    {fault : Fault} (continues : (emulator.ready arrivals).wantsQuit = false)
    (failed : (emulator.ready arrivals).machine.step.result = .error fault) :
    (emulator.turn arrivals).progress = .failed fault ∧
      (emulator.turn arrivals).emulator.machine = (emulator.ready arrivals).machine.step.machine ∧
      (emulator.turn arrivals).emulator.frames = emulator.frames := by
  have stepped : emulator.turn arrivals =
      (emulator.ready arrivals).stepAndPresent arrivals.beforeFrame :=
    if_neg (Bool.eq_false_iff.mp continues)
  rw [stepped]
  simp only [stepAndPresent, failed]
  exact ⟨trivial, trivial, frames_ready emulator arrivals⟩

/-- A turn whose step succeeds presents the frame. -/
theorem turn_of_step
    (continues : (emulator.ready arrivals).wantsQuit = false)
    (succeeded : (emulator.ready arrivals).machine.step.result = .ok ()) :
    (emulator.turn arrivals).progress = (emulator.presenting arrivals).present.progress ∧
      (emulator.turn arrivals).emulator = (emulator.presenting arrivals).present.emulator := by
  have stepped : emulator.turn arrivals =
      (emulator.ready arrivals).stepAndPresent arrivals.beforeFrame :=
    if_neg (Bool.eq_false_iff.mp continues)
  rw [stepped]
  simp only [stepAndPresent, succeeded]
  exact ⟨rfl, rfl⟩

theorem machine_turn_of_step
    (continues : (emulator.ready arrivals).wantsQuit = false)
    (succeeded : (emulator.ready arrivals).machine.step.result = .ok ()) :
    (emulator.turn arrivals).emulator.machine =
      (emulator.ready arrivals).machine.step.machine.withRedraw false := by
  rw [(turn_of_step continues succeeded).2, machine_present]
  rfl

/-- The loop goes on only after a turn whose step succeeded. -/
theorem step_of_turn_running (running : (emulator.turn arrivals).progress = .running) :
    (emulator.ready arrivals).wantsQuit = false ∧
      (emulator.ready arrivals).machine.step.result = .ok () := by
  cases quits : (emulator.ready arrivals).wantsQuit with
  | true =>
      rw [(turn_of_wantsQuit quits).1] at running
      cases running
  | false =>
      cases result : (emulator.ready arrivals).machine.step.result with
      | ok => exact ⟨rfl, rfl⟩
      | error fault =>
          rw [(turn_of_fault quits result).1] at running
          cases running

end Outcomes

/-! ## The turns of a loop -/

theorem turns_cons_of_running
    {emulator : Emulator} {arrivals : Arrivals}
    (running : (emulator.turn arrivals).progress = .running) (rest : List Arrivals) :
    emulator.turns (arrivals :: rest) =
      { (emulator.turn arrivals).emulator.turns rest with
        notices := (emulator.turn arrivals).notices ++
          ((emulator.turn arrivals).emulator.turns rest).notices } := by
  simp [turns, running]

/-- After a turn that ends the loop, nothing that is left of the schedule happens. -/
theorem turns_cons_of_ended
    {emulator : Emulator} {arrivals : Arrivals}
    (ended : (emulator.turn arrivals).progress ≠ .running) (rest : List Arrivals) :
    emulator.turns (arrivals :: rest) = emulator.turn arrivals := by
  rw [turns]
  split
  case h_1 running => exact absurd running ended
  all_goals rfl

/-- A turn with any outcome but to go on is the last one. -/
theorem turns_cons_of_outcome
    {emulator : Emulator} {arrivals : Arrivals} {progress : Progress}
    (outcome : (emulator.turn arrivals).progress = progress) (ended : progress ≠ .running)
    (rest : List Arrivals) : emulator.turns (arrivals :: rest) = emulator.turn arrivals := by
  rw [← outcome] at ended
  exact turns_cons_of_ended ended rest

theorem turn_running_of_turns_running
    {emulator : Emulator} {arrivals : Arrivals} {rest : List Arrivals}
    (running : (emulator.turns (arrivals :: rest)).progress = .running) :
    (emulator.turn arrivals).progress = .running := by
  apply Decidable.byContradiction
  intro ended
  rw [turns_cons_of_ended ended] at running
  exact ended running

/-- A loop that is still running goes on from where it is. -/
theorem turns_append_of_running
    {emulator : Emulator} {before : List Arrivals}
    (running : (emulator.turns before).progress = .running) (rest : List Arrivals) :
    emulator.turns (before ++ rest) =
      { (emulator.turns before).emulator.turns rest with
        notices := (emulator.turns before).notices ++
          ((emulator.turns before).emulator.turns rest).notices } := by
  induction before generalizing emulator with
  | nil => rfl
  | cons arrivals others later =>
      have first := turn_running_of_turns_running running
      rw [turns_cons_of_running first] at running
      rw [List.cons_append, turns_cons_of_running first, turns_cons_of_running first,
        later running]
      simp only [List.append_assoc]

/-- What the turns of a loop contribute, one after the other. -/
def gather {α : Type} (contribution : Emulator → Arrivals → List α) (emulator : Emulator) :
    List Arrivals → List α
  | [] => []
  | arrivals :: rest =>
      contribution emulator arrivals ++
        match (emulator.turn arrivals).progress with
        | .running => gather contribution (emulator.turn arrivals).emulator rest
        | .stopped | .failed _ => []

section Gather

variable {α : Type} (contribution : Emulator → Arrivals → List α)
  {emulator : Emulator} {arrivals : Arrivals}

theorem gather_cons_of_running
    (running : (emulator.turn arrivals).progress = .running) (rest : List Arrivals) :
    gather contribution emulator (arrivals :: rest) =
      contribution emulator arrivals ++
        gather contribution (emulator.turn arrivals).emulator rest := by
  simp [gather, running]

theorem gather_cons_of_ended
    (ended : (emulator.turn arrivals).progress ≠ .running) (rest : List Arrivals) :
    gather contribution emulator (arrivals :: rest) = contribution emulator arrivals := by
  rw [gather]
  split
  case h_1 running => exact absurd running ended
  all_goals exact List.append_nil _

end Gather

/-- The machine on which a turn makes a successful step, just before that step. -/
def stepOf (emulator : Emulator) (arrivals : Arrivals) : List Machine :=
  if (emulator.ready arrivals).wantsQuit then []
  else
    match (emulator.ready arrivals).machine.step.result with
    | .ok () => [(emulator.ready arrivals).machine]
    | .error _ => []

/-- The machines on which the loop makes its successful steps, each just before its step. -/
def steppedMachines (emulator : Emulator) (schedule : List Arrivals) : List Machine :=
  emulator.gather stepOf schedule

theorem stepOf_of_wantsQuit
    {emulator : Emulator} {arrivals : Arrivals}
    (quits : (emulator.ready arrivals).wantsQuit = true) : emulator.stepOf arrivals = [] :=
  if_pos quits

theorem stepOf_of_fault
    {emulator : Emulator} {arrivals : Arrivals} {fault : Fault}
    (failed : (emulator.ready arrivals).machine.step.result = .error fault) :
    emulator.stepOf arrivals = [] := by
  simp [stepOf, failed]

theorem stepOf_of_step
    {emulator : Emulator} {arrivals : Arrivals}
    (continues : (emulator.ready arrivals).wantsQuit = false)
    (succeeded : (emulator.ready arrivals).machine.step.result = .ok ()) :
    emulator.stepOf arrivals = [(emulator.ready arrivals).machine] := by
  simp [stepOf, continues, succeeded]

/-- A turn makes a successful step, or it makes none and the loop ends. -/
theorem stepOf_cases (emulator : Emulator) (arrivals : Arrivals) :
    ((emulator.ready arrivals).wantsQuit = false ∧
        (emulator.ready arrivals).machine.step.result = .ok () ∧
        emulator.stepOf arrivals = [(emulator.ready arrivals).machine]) ∨
      (emulator.stepOf arrivals = [] ∧ (emulator.turn arrivals).progress ≠ .running ∧
        ((emulator.turn arrivals).emulator.machine = (emulator.ready arrivals).machine ∨
          ∃ fault, (emulator.ready arrivals).machine.step.result = .error fault ∧
            (emulator.turn arrivals).emulator.machine =
              (emulator.ready arrivals).machine.step.machine) ∧
        (emulator.turn arrivals).emulator.frames = emulator.frames) := by
  cases quits : (emulator.ready arrivals).wantsQuit with
  | true =>
      rcases turn_of_wantsQuit quits with ⟨progress, machine, frames⟩
      refine Or.inr ⟨stepOf_of_wantsQuit quits, ?_, Or.inl machine, frames⟩
      rw [progress]
      nofun
  | false =>
      cases result : (emulator.ready arrivals).machine.step.result with
      | ok => exact Or.inl ⟨rfl, rfl, stepOf_of_step quits result⟩
      | error fault =>
          rcases turn_of_fault quits result with ⟨progress, machine, frames⟩
          refine Or.inr ⟨stepOf_of_fault result, ?_, Or.inr ⟨fault, rfl, machine⟩, frames⟩
          rw [progress]
          nofun

end Emulator

end ChipEight
