import ChipEight.CallStack
import ChipEight.Dictionary
import ChipEight.Emulator
import ChipEight.Emulator.Loop
import ChipEight.Frame
import ChipEight.Instruction
import ChipEight.Keypad
import ChipEight.Link
import ChipEight.Machine
import ChipEight.Machine.Action
import ChipEight.Machine.Execution
import ChipEight.Memory
import ChipEight.Notice
import ChipEight.Proofs.Bounds
import ChipEight.Proofs.Calls
import ChipEight.Proofs.Cells
import ChipEight.Proofs.ControlFlow
import ChipEight.Proofs.Coverage
import ChipEight.Proofs.Documents
import ChipEight.Proofs.Drawing
import ChipEight.Proofs.Encoding
import ChipEight.Proofs.Execution
import ChipEight.Proofs.Flags
import ChipEight.Proofs.Font
import ChipEight.Proofs.Footprint
import ChipEight.Proofs.Fresh
import ChipEight.Proofs.Halting
import ChipEight.Proofs.History
import ChipEight.Proofs.Index
import ChipEight.Proofs.Interference
import ChipEight.Proofs.KeyIndex
import ChipEight.Proofs.KeypadMask
import ChipEight.Proofs.Layouts
import ChipEight.Proofs.Link
import ChipEight.Proofs.Loading
import ChipEight.Proofs.Locality
import ChipEight.Proofs.Log
import ChipEight.Proofs.Loop.Frames
import ChipEight.Proofs.Loop.Messages
import ChipEight.Proofs.Loop.Stepping
import ChipEight.Proofs.Loop.Turn
import ChipEight.Proofs.Lowercase
import ChipEight.Proofs.Microcode
import ChipEight.Proofs.Microcode.Actions
import ChipEight.Proofs.Microcode.Instructions
import ChipEight.Proofs.Microcode.Sprite
import ChipEight.Proofs.Microcode.Telling
import ChipEight.Proofs.Numerals
import ChipEight.Proofs.Outcome
import ChipEight.Proofs.Pending
import ChipEight.Proofs.Pixels
import ChipEight.Proofs.RandomBytes
import ChipEight.Proofs.Reachable
import ChipEight.Proofs.Reading
import ChipEight.Proofs.Records
import ChipEight.Proofs.Redraw
import ChipEight.Proofs.Rendering
import ChipEight.Proofs.Replies
import ChipEight.Proofs.Safety
import ChipEight.Proofs.Stamps
import ChipEight.Proofs.Step
import ChipEight.Proofs.Timers
import ChipEight.Proofs.Transfers
import ChipEight.Proofs.Waiting
import ChipEight.Proofs.Watching
import ChipEight.Random
import ChipEight.Settings
import ChipEight.Settings.Document
import ChipEight.Settings.Reading
import ChipEight.Text
import ChipEight.Text.Lowercase
import ChipEight.Text.Quoted
import ChipEight.Word

/-!
# A machine of sixteen registers, its host and what can be said about them

`ChipEight.Machine` is the state of the machine, `ChipEight.Machine.Execution` says what each
instruction makes of it, and `ChipEight.Machine.Action` makes steps, runs and lifetimes of that.
`ChipEight.Settings` and the modules below it read what the host chooses, and `ChipEight.Emulator`
with its loop lets machine and host talk over a link.

The modules under `ChipEight.Proofs` say what holds of this on all inputs:

* of single steps: `Outcome`, `Footprint`, `Flags`, `ControlFlow`, `Transfers`, `Locality`, and
  `Safety` with the checked microprograms under `Microcode`;
* of whole lifetimes: `Bounds`, `Halting`, `Calls`, `Font`, `Index`, `Fresh`, `Pending`, `Timers`,
  `Waiting`, `RandomBytes`, `Log` and `Interference`;
* of the screen and the keypad: `Cells`, `Stamps`, `Pixels`, `Rendering`, `Watching` and
  `KeypadMask`;
* of the main loop: `Loop.Stepping`, `Loop.Frames` and `Loop.Messages`;
* of settings: `Loading`, `Layouts`, `Coverage` and `KeyIndex`.
-/
