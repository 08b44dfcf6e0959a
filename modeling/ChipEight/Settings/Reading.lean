import ChipEight.Notice
import ChipEight.Settings

/-!
# Reading settings

How a document changes the settings.  The rate comes first, then the scale, then the layout, each
from its own section.  What the document leaves out stays as it is.  The first bad entry ends the
reading with an error: what was read before it stays, and a layout is replaced as a whole or not
at all.

A document comes from a source, which may have none to offer; that is not an error, and leaves the
settings as they are, with a warning.  A file is such a source to a parser, `documentParser` being
the one in use: it has no document if it is missing, is no text, or the parser refuses its text.
-/

namespace ChipEight

/-- What came of reading: the settings after it, its result and what it told. -/
structure Reading where
  settings : Settings
  result : Except SettingsError Unit
  notices : List Notice

namespace Settings

abbrev maxCyclesPerSecond : Nat := 4294967295

abbrev maxScale : Nat := 64

/-- The number in the bounds from 1 to a limit that a value writes. -/
def boundedNumber? (limit : Nat) (value : String) : Option Nat :=
  (Text.Numeral.value? 10 (Text.trim value.toList)).filter fun number =>
    decide (0 < number) && decide (number ≤ limit)

/-- The number under a key, if the key has a value; the value has to be in bounds. -/
def readNumber
    (document : Document) (sectionName key : String) (limit : Nat) :
    Except SettingsError (Option Nat) :=
  match document.value? sectionName key with
  | none => .ok none
  | some value =>
      match boundedNumber? limit value with
      | some number => .ok (some number)
      | none => .error (.invalidValue sectionName key value)

/-- The number a value writes in base ten or, after `0x` or `0X`, in base sixteen. -/
def keyNumber? (value : String) : Option Nat :=
  match Text.trim value.toList with
  | '0' :: 'x' :: digits => Text.Numeral.value? 16 digits
  | '0' :: 'X' :: digits => Text.Numeral.value? 16 digits
  | text => Text.Numeral.value? 10 text

def keyIndex? (value : String) : Option Key :=
  match keyNumber? value with
  | some number => if inside : number < 16 then some ⟨number, inside⟩ else none
  | none => none

/-- A value as text, that of a key without one being empty. -/
def valueText (value : Option String) : String :=
  value.getD ""

/-- Add the entries of a section to a layout; the first entry without a key is the error. -/
def readLayout (layout : Layout) : Section → Except SettingsError Layout
  | [] => .ok layout
  | (name, value) :: rest =>
      match keyIndex? (valueText value) with
      | some key => readLayout (layout.put (Text.lowercase name) key) rest
      | none => .error (.invalidKey name (valueText value))

/-- The notices of the entries of a section, up to the first without a key. -/
def mappingNotices : Section → List Notice
  | [] => []
  | (name, value) :: rest =>
      match keyIndex? (valueText value) with
      | some key => .keyMapped name key :: mappingNotices rest
      | none => []

/-- A warning if a layout has fewer entries than the keypad has keys. -/
def layoutWarning (layout : Layout) : List Notice :=
  if layout.length < 16 then [.layoutIncomplete layout.length] else []

def layoutSection : String :=
  "keyboard_layout"

def applyLayout (settings : Settings) (document : Document) : Reading :=
  match document.section? layoutSection with
  | none => ⟨settings, .ok (), [.layoutAbsent]⟩
  | some entries =>
      match readLayout [] entries with
      | .ok layout =>
          ⟨{ settings with layout := layout }, .ok (),
            mappingNotices entries ++ layoutWarning layout⟩
      | .error error => ⟨settings, .error error, mappingNotices entries⟩

/-- Read the scale of a document, then its layout. -/
def applyScale (settings : Settings) (document : Document) : Reading :=
  match readNumber document "display" "scale" maxScale with
  | .ok scale =>
      { settings with scale := scale.getD settings.scale }.applyLayout document
  | .error error => ⟨settings, .error error, []⟩

/-- Read the rate of a document, then its scale and its layout. -/
def apply (settings : Settings) (document : Document) : Reading :=
  match readNumber document "emulator" "cycles_per_second" maxCyclesPerSecond with
  | .ok rate =>
      { settings with
        cyclesPerSecond := rate.getD settings.cyclesPerSecond }.applyScale document
  | .error error => ⟨settings, .error error, []⟩

/-- The settings of a text, read over the default ones. -/
def ofText (text : String) : Reading :=
  match Document.parse text with
  | .ok document => default.apply document
  | .error error => ⟨default, .error (.malformed error), []⟩

/-! ## Files -/

/-- What there is to read: a document, or the reason why there is none. -/
abbrev Source := Except String Document

/-- Read the settings in a source, found under a path, over the present ones. -/
def receive (settings : Settings) (path : String) : Source → Reading
  | .error reason => ⟨settings, .ok (), [.settingsUnavailable path reason]⟩
  | .ok document =>
      let reading := settings.apply document
      match reading.result with
      | .ok () => { reading with notices := reading.notices ++ [.settingsLoaded path] }
      | .error _ => reading

/-- What there is under the path of a file. -/
inductive File where
  | missing
  | bytes (content : ByteArray)

def File.text : File → Except String String
  | .missing => .error "No such file or directory (os error 2)"
  | .bytes content =>
      match String.fromUTF8? content with
      | some text => .ok text
      | none => .error "stream did not contain valid UTF-8"

/-- A parser says for each text which document it is, or why it is none. -/
abbrev Parser := String → Except String Document

/-- What a parser makes of the file at a path. -/
def File.source (parse : Parser) (path : String) (file : File) : Source :=
  match file.text.bind parse with
  | .ok document => .ok document
  | .error reason => .error ("couldn't read " ++ path ++ ": " ++ reason)

/-- The parser of settings documents. -/
def documentParser : Parser := fun text =>
  match Document.parse text with
  | .ok document => .ok document
  | .error error => .error error.message

/-- Read the settings in the file at a path over the present ones. -/
def load (settings : Settings) (path : String) (file : File) : Reading :=
  settings.receive path (file.source documentParser path)

end Settings

end ChipEight
