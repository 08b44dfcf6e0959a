import ChipEight.Link
import ChipEight.Machine.Action
import ChipEight.Settings

/-!
# The emulator

A machine, the settings of its host and, once the host has connected, the link between them.
-/

namespace ChipEight

structure Emulator where
  machine : Machine
  settings : Settings
  link : Option Link

namespace Emulator

def create (machine : Machine) (settings : Settings) : Emulator :=
  ⟨machine, settings, none⟩

/-- Start a fresh link; an older one is lost together with what waits in it. -/
def connect (emulator : Emulator) : Emulator :=
  { emulator with link := some Link.fresh }

def allows (emulator : Emulator) (event : HostEvent) : Bool :=
  emulator.link.any (·.allows event)

/-- The emulator after events of the host; without a link they come to nothing. -/
def receive (emulator : Emulator) (events : List HostEvent) : Emulator :=
  { emulator with link := emulator.link.map (·.afterAll events) }

def frames (emulator : Emulator) : List Frame :=
  match emulator.link with
  | some link => link.frames
  | none => []

def collectFrames (emulator : Emulator) : Emulator :=
  { emulator with link := emulator.link.map Link.collectFrames }

/-- A number of steps back to back, without a word to the host, ended early by a fault. -/
def runCycles (emulator : Emulator) (count : Nat) : Emulator × Machine.Run :=
  let run := emulator.machine.run count
  ({ emulator with machine := run.outcome.machine }, run)

end Emulator

end ChipEight
