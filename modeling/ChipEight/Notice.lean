import ChipEight.Keypad
import ChipEight.Memory

/-!
# Faults and notices

Why the machine refuses a program or stops.  Every fault but the refusal of a program carries the
address of the instruction at which it arose, or says that the machine had stopped before.

What the machine, the settings and the main loop tell about their work.  Each notice has a level
of importance and a wording; a reader asks for the notices down to some level.
-/

namespace ChipEight

/-! ## Faults -/

/-- A reason for the machine not to go on. -/
inductive Fault where
  | programTooLarge (size : Nat)
  /-- No whole word lies at the program counter. -/
  | fetchOutside (pc : UInt16)
  | unknownWord (word : Word) (pc : UInt16)
  | stackOverflow (pc : UInt16)
  | stackUnderflow (pc : UInt16)
  /-- A transfer that reaches beyond memory, and the first address outside that it needs. -/
  | accessOutside (address pc : UInt16)
  /-- The machine stopped at an earlier fault. -/
  | halted
deriving DecidableEq

namespace Fault

def message : Fault → String
  | .programTooLarge size =>
      "program is " ++ toString size ++ " bytes, but only " ++
        toString Memory.programCapacity ++ " bytes of program memory are available"
  | .fetchOutside pc =>
      "attempted to fetch an instruction beyond memory constraints at " ++ Text.Hex.address pc
  | .unknownWord word pc =>
      "encountered unknown opcode " ++ word.text ++ " at " ++ Text.Hex.address pc
  | .stackOverflow pc =>
      "stack nesting limit exceeded at " ++ Text.Hex.address pc
  | .stackUnderflow pc =>
      "attempted to return with an empty stack at " ++ Text.Hex.address pc
  | .accessOutside address pc =>
      "memory access at " ++ Text.Hex.address address ++
        " is out of bounds (instruction at " ++ Text.Hex.address pc ++ ")"
  | .halted =>
      "interpreter halted after a fatal error; reset before stepping again"

end Fault

/-! ## Notices -/

/-- How important a notice is. -/
inductive Level where
  | error
  | warning
  | info
  | debug
  | trace
deriving DecidableEq

/-- The number of levels above a level. -/
def Level.rank : Level → Nat
  | .error => 0
  | .warning => 1
  | .info => 2
  | .debug => 3
  | .trace => 4

/-- Whether a reader who asks for notices down to `limit` gets those of `level`. -/
def Level.admits (limit level : Level) : Bool :=
  level.rank ≤ limit.rank

/-- Something worth telling. -/
inductive Notice where
  | machineReset
  | programLoaded (size : Nat)
  /-- A word was fetched and is about to be carried out. -/
  | fetched (pc : UInt16) (word : Word)
  | called (target pc : UInt16)
  /-- A subroutine at `pc` returned to the call at `caller`. -/
  | returned (pc caller : UInt16)
  | waitEnded (key : Key) (pc : UInt16)
  | halting (fault : Fault)
  /-- A host key was given a key of the keypad. -/
  | keyMapped (name : String) (key : Key)
  /-- The layout has fewer entries than the keypad has keys. -/
  | layoutIncomplete (entries : Nat)
  | layoutAbsent
  | settingsLoaded (path : String)
  | settingsUnavailable (path reason : String)
  /-- The main loop starts without a host to talk to. -/
  | runningHeadless
  | loopStarted (cyclesPerSecond : Nat)
  /-- Nobody is left to take a frame. -/
  | displayHungUp
  | loopStopped
deriving DecidableEq

namespace Notice

def level : Notice → Level
  | .halting _ => .error
  | .layoutIncomplete _ | .settingsUnavailable _ _ | .runningHeadless => .warning
  | .programLoaded _ | .loopStarted _ | .loopStopped => .info
  | .machineReset | .called _ _ | .returned _ _ | .waitEnded _ _ | .keyMapped _ _
  | .layoutAbsent | .settingsLoaded _ | .displayHungUp => .debug
  | .fetched _ _ => .trace

def keyDigit (key : Key) : String :=
  String.ofList (Text.Hex.upper 1 key.val)

def message : Notice → String
  | .machineReset => "interpreter reset"
  | .programLoaded size =>
      "loaded " ++ toString size ++ " byte program at " ++
        Text.Hex.address (UInt16.ofNat Memory.programStart)
  | .fetched pc word => Text.Hex.address pc ++ ": " ++ word.text
  | .called target pc =>
      "call " ++ Text.Hex.address target ++ " from " ++ Text.Hex.address pc
  | .returned pc caller =>
      "return from " ++ Text.Hex.address pc ++ " to " ++ Text.Hex.address caller
  | .waitEnded key pc =>
      "key " ++ keyDigit key ++ " ended wait at " ++ Text.Hex.address pc
  | .halting fault => "halting interpreter: " ++ fault.message
  | .keyMapped name key => "Mapping " ++ name ++ " to key " ++ keyDigit key
  | .layoutIncomplete entries =>
      "Keyboard layout only maps " ++ toString entries ++
        " of 16 keys. Controls may not work as expected."
  | .layoutAbsent => "No [keyboard_layout] section, keeping current keyboard layout"
  | .settingsLoaded path => "Loaded config from " ++ path
  | .settingsUnavailable path reason =>
      "Unable to load config file " ++ path ++ ": [" ++ reason ++ "]. Using default settings."
  | .runningHeadless =>
      "Interpreter has not been connected with main thread; running headless."
  | .loopStarted cyclesPerSecond =>
      "Starting main loop at " ++ toString cyclesPerSecond ++ " cycles per second"
  | .displayHungUp => "Display receiver hung up"
  | .loopStopped => "Main loop stopped"

end Notice

end ChipEight
