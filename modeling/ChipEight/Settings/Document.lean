import ChipEight.Dictionary
import ChipEight.Text
import ChipEight.Text.Lowercase

/-!
# Settings documents

The text form of settings is a document of sections, each with entries.  A line in brackets opens
a section; any other line is an entry, its key set off from its value by the first `=` or `:`, or
a key alone.  Blanks around each part do not count, a `;` or `#` starts a comment, and the case
of section and key names is ignored.  Entries before the first heading belong to the section
`default`.

A section may be opened again, and a later entry with the same key replaces the earlier one.  The
first line that breaks these rules decides the error.
-/

namespace ChipEight

/-- Why a text is not a settings document. -/
inductive SyntaxError where
  | unclosedHeading (line : Nat)
  /-- An entry has nothing before its delimiter, which stands after so many bytes. -/
  | emptyKey (line column : Nat)
deriving DecidableEq

def SyntaxError.message : SyntaxError → String
  | .unclosedHeading line =>
      "line " ++ toString line ++
        ": Found opening bracket for section name but no closing bracket"
  | .emptyKey line column =>
      "line " ++ toString line ++ ":" ++ toString column ++ ": Key cannot be empty"

/-- Keys with their values; a key may stand without one. -/
abbrev Section := Dictionary (Option String)

structure Document where
  sections : Dictionary Section
deriving DecidableEq

namespace Document

inductive Line where
  | nothing
  | heading (name : String)
  | entry (key : String) (value : Option String)
deriving DecidableEq

/-- The lines of a text, without their line feeds. -/
def lines : List Char → List (List Char)
  | [] => [[]]
  | character :: rest =>
      match lines rest with
      | [] => [[character]]
      | line :: others =>
          if character = '\n' then [] :: line :: others else (character :: line) :: others

def startsComment (character : Char) : Bool :=
  character == ';' || character == '#'

/-- Whether a character sets a key off from its value. -/
def isDelimiter (character : Char) : Bool :=
  character == '=' || character == ':'

/-- The line without its comment and without blanks at its ends. -/
def content (line : List Char) : List Char :=
  Text.trim ((Text.trim line).takeWhile fun character => !startsComment character)

/-- A name as it is compared: without blanks at its ends and in lower case. -/
def normalName (name : List Char) : String :=
  Text.lowercase (String.ofList (Text.trim name))

/-- What stands before the last closing bracket. -/
def beforeBracket? (text : List Char) : Option (List Char) :=
  match text.reverse.dropWhile (· != ']') with
  | [] => none
  | _ :: inside => some inside.reverse

/-- Read an entry, given the content of its line. -/
def parseEntry (number : Nat) (text : List Char) : Except SyntaxError Line :=
  let key := text.takeWhile fun character => !isDelimiter character
  match text.dropWhile fun character => !isDelimiter character with
  | [] => .ok (.entry (normalName key) none)
  | _ :: value =>
      if (Text.trim key).isEmpty then
        .error (.emptyKey number (String.ofList key).utf8ByteSize)
      else .ok (.entry (normalName key) (some (String.ofList (Text.trim value))))

/-- Read a line, given its number. -/
def parseLine (number : Nat) (line : List Char) : Except SyntaxError Line :=
  match content line with
  | [] => .ok .nothing
  | '[' :: rest =>
      match beforeBracket? rest with
      | some name => .ok (.heading (normalName name))
      | none => .error (.unclosedHeading number)
  | text => parseEntry number text

def section? (document : Document) (name : String) : Option Section :=
  document.sections.find? name

def sectionOrEmpty (document : Document) (name : String) : Section :=
  (document.section? name).getD []

/-- The value of a key; a key without a value has none. -/
def value? (document : Document) (sectionName key : String) : Option String :=
  ((document.sectionOrEmpty sectionName).find? key).join

def openSection (document : Document) (name : String) : Document :=
  ⟨document.sections.put name (document.sectionOrEmpty name)⟩

def putEntry
    (document : Document) (sectionName key : String) (value : Option String) : Document :=
  ⟨document.sections.put sectionName ((document.sectionOrEmpty sectionName).put key value)⟩

/-- Read lines into a document, given the number of the first and the open section. -/
def parseLines
    (number : Nat) (sectionName : String) (document : Document) :
    List (List Char) → Except SyntaxError Document
  | [] => .ok document
  | line :: rest =>
      match parseLine number line with
      | .error error => .error error
      | .ok .nothing => parseLines (number + 1) sectionName document rest
      | .ok (.heading name) => parseLines (number + 1) name (document.openSection name) rest
      | .ok (.entry key value) =>
          parseLines (number + 1) sectionName (document.putEntry sectionName key value) rest

def initialSection : String :=
  "default"

def parse (text : String) : Except SyntaxError Document :=
  parseLines 1 initialSection ⟨[]⟩ (lines text.toList)

end Document

end ChipEight
