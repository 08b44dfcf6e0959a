import ChipEight.Dictionary
import ChipEight.Keypad
import ChipEight.Settings.Document
import ChipEight.Text.Quoted

/-!
# Settings

What the host can choose: how many steps the machine makes in a second, how large a pixel is
shown, and which key of the host stands for which key of the keypad.
-/

namespace ChipEight

/-- Names of host keys, in lower case, with the keys of the keypad they stand for. -/
abbrev Layout := Dictionary Key

structure Settings where
  cyclesPerSecond : Nat
  scale : Nat
  layout : Layout
deriving DecidableEq

/-- Why a settings document is refused. -/
inductive SettingsError where
  | malformed (error : SyntaxError)
  /-- A number is none or out of bounds. -/
  | invalidValue (sectionName key value : String)
  /-- A host key does not stand for a key of the keypad. -/
  | invalidKey (name value : String)
deriving DecidableEq

def SettingsError.message : SettingsError → String
  | .malformed error => "unable to parse config: " ++ error.message
  | .invalidValue sectionName key value =>
      "invalid value " ++ Text.quoted value ++ " for " ++ key ++ " in [" ++ sectionName ++ "]"
  | .invalidKey name value =>
      "key " ++ Text.quoted name ++ " is mapped to " ++ Text.quoted value ++
        ", expected a keypad index from 0 to 15"

namespace Settings

/-- The host keys of the keys `0` to `F`: the left-hand side of a keyboard. -/
def defaultKeys : List String :=
  ["x", "1", "2", "3", "q", "w", "e", "a", "s", "d", "z", "c", "4", "r", "f", "v"]

/-- Every key of the keypad under its usual host key. -/
def defaultLayout : Layout :=
  defaultKeys.zip (List.finRange 16)

/-- The settings of a host that chose nothing. -/
def default : Settings :=
  ⟨500, 16, defaultLayout⟩

/-- The key that a host key stands for, whatever the case of its name. -/
def key? (settings : Settings) (name : String) : Option Key :=
  settings.layout.find? (Text.lowercase name)

/-- The time of one step, in whole nanoseconds. -/
def cycleNanoseconds (settings : Settings) : Nat :=
  1000000000 / settings.cyclesPerSecond

end Settings

end ChipEight
