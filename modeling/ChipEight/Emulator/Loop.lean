import ChipEight.Emulator

/-!
# The main loop

The loop makes turns until the host asks it to stop, until a frame cannot be delivered, or until
a step fails.  A turn takes the latest mask of keys, looks for a request to quit, makes one step
and sends the frame if the screen asks for it.

The host acts while the loop runs.  The events of one turn are listed by the mailbox operation
before which they arrive, so that a schedule of events is a list with one entry for each turn.
-/

namespace ChipEight

/--
The events of the host during one turn.  Events before an operation that the turn does not come to,
because the loop ends earlier, are not received.
-/
structure Arrivals where
  beforeKeys : List HostEvent
  beforeQuit : List HostEvent
  beforeFrame : List HostEvent

def Arrivals.none : Arrivals :=
  ⟨[], [], []⟩

inductive Progress where
  | running
  | stopped
  | failed (fault : Fault)
deriving DecidableEq

structure Turn where
  emulator : Emulator
  progress : Progress
  notices : List Notice

namespace Emulator

/-- Give the keypad the latest of the waiting masks and take them all. -/
def takeKeys (emulator : Emulator) : Emulator :=
  match emulator.link with
  | none => emulator
  | some link =>
      let machine :=
        match link.keys.waiting.getLast? with
        | some bits => { emulator.machine with keypad := Keypad.ofMask bits }
        | none => emulator.machine
      { emulator with machine := machine, link := some link.drainKeys }

def wantsQuit (emulator : Emulator) : Bool :=
  emulator.link.any Link.wantsQuit

def quit (emulator : Emulator) : Turn :=
  ⟨{ emulator with link := emulator.link.map Link.acknowledgeQuit }, .stopped, [.loopStopped]⟩

/-- Send the frame if the screen asks for it. -/
def present (emulator : Emulator) : Turn :=
  if emulator.machine.screen.redraw then
    let machine :=
      { emulator.machine with screen := emulator.machine.screen.takeRedraw }
    match emulator.link with
    | none => ⟨{ emulator with machine := machine }, .running, []⟩
    | some link =>
        if link.displayPresent then
          ⟨{ emulator with
              machine := machine
              link := some (link.sendFrame machine.screen.frame) }, .running, []⟩
        else
          ⟨{ emulator with machine := machine }, .stopped, [.displayHungUp, .loopStopped]⟩
  else ⟨emulator, .running, []⟩

/-- Make a step and, if it succeeds, send the frame. -/
def stepAndPresent (emulator : Emulator) (beforeFrame : List HostEvent) : Turn :=
  let outcome := emulator.machine.step
  let stepped := { emulator with machine := outcome.machine }
  match outcome.result with
  | .error fault => ⟨stepped, .failed fault, outcome.notices⟩
  | .ok () =>
      let presented := (stepped.receive beforeFrame).present
      { presented with notices := outcome.notices ++ presented.notices }

def turn (emulator : Emulator) (arrivals : Arrivals) : Turn :=
  let ready := ((emulator.receive arrivals.beforeKeys).takeKeys).receive arrivals.beforeQuit
  if ready.wantsQuit then ready.quit else ready.stepAndPresent arrivals.beforeFrame

/-- The turns of a schedule, ended early when the loop stops or fails. -/
def turns (emulator : Emulator) : List Arrivals → Turn
  | [] => ⟨emulator, .running, []⟩
  | arrivals :: rest =>
      let first := emulator.turn arrivals
      match first.progress with
      | .running =>
          let later := turns first.emulator rest
          { later with notices := first.notices ++ later.notices }
      | .stopped | .failed _ => first

/-- What the loop tells before its first turn. -/
def startNotices (emulator : Emulator) : List Notice :=
  (if emulator.link.isNone then [.runningHeadless] else []) ++
    [.loopStarted emulator.settings.cyclesPerSecond]

def mainLoop (emulator : Emulator) (schedule : List Arrivals) : Turn :=
  let made := emulator.turns schedule
  { made with notices := emulator.startNotices ++ made.notices }

end Emulator

end ChipEight
