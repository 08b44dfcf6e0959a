import ChipEight.Proofs.Numerals
import ChipEight.Settings.Reading

/-!
# What a document does to the settings

A document has something to say about each of the three settings, or leaves it alone.  What it
says may be invalid, and the first invalid setting ends the reading: the settings ruled before it
have changed, it and those after it have not.

The rulings are told from the document alone, without reading it in any order, and a layout is
told by the entries for each host key.
-/

namespace ChipEight

namespace Document

/-- A document gives a key of a section a value: the first section with the name has it in the
first entry with the key.  A key that stands alone has no value. -/
def States (document : Document) (sectionName key value : String) : Prop :=
  ∃ entries, document.sections.Gives sectionName entries ∧
    Dictionary.Gives entries key (some value)

/-- A lookup finds the value that the document states. -/
theorem value?_eq_some_iff (document : Document) (sectionName key value : String) :
    document.value? sectionName key = some value ↔ document.States sectionName key value := by
  simp only [States, ← Dictionary.find?_eq_some_iff]
  cases found : document.sections.find? sectionName with
  | none => simp [value?, sectionOrEmpty, section?, found]
  | some entries => simp [value?, sectionOrEmpty, section?, found, Option.join_eq_some_iff]

/-- A value is absent exactly if the document states none. -/
theorem value?_eq_none_iff (document : Document) (sectionName key : String) :
    document.value? sectionName key = none ↔
      ∀ value, ¬ document.States sectionName key value := by
  simp only [← value?_eq_some_iff, ← Option.eq_none_iff_forall_ne_some]

end Document

namespace Settings

/-! ## Numbers -/

/-- A value writes a number within the bounds, in base ten and with any blanks around it. -/
structure WritesWithin (limit : Nat) (value : String) (number : Nat) : Prop where
  written : ∃ inner, Text.Trims value.toList inner ∧ Text.Numeral.Writes 10 inner number
  positive : 1 ≤ number
  atMost : number ≤ limit

/-- A number is read exactly if the value writes it and it is within the limit. -/
theorem boundedNumber?_eq_some_iff (limit : Nat) (value : String) (number : Nat) :
    boundedNumber? limit value = some number ↔ WritesWithin limit value number := by
  have writes :
      Text.Numeral.value? 10 (Text.trim value.toList) = some number ↔
        ∃ inner, Text.Trims value.toList inner ∧ Text.Numeral.Writes 10 inner number := by
    rw [Text.Numeral.value?_eq_some_iff (by decide)]
    simp only [← Text.trim_eq_iff, exists_eq_left']
  simp only [boundedNumber?, Option.filter_eq_some_iff, writes, Bool.and_eq_true,
    decide_eq_true_eq]
  constructor
  · rintro ⟨written, positive, atMost⟩
    exact ⟨written, positive, atMost⟩
  · rintro ⟨written, positive, atMost⟩
    exact ⟨written, positive, atMost⟩

/--
How a document rules the number under a key: without a value it leaves the setting alone, a value
that writes a number within the bounds gives that number, and any other value is invalid.
-/
inductive RulesNumber (document : Document) (sectionName key : String) (limit : Nat) :
    Except SettingsError (Option Nat) → Prop
  | absent (unstated : ∀ value, ¬ document.States sectionName key value) :
      RulesNumber document sectionName key limit (.ok none)
  | valid {value : String} {number : Nat}
      (stated : document.States sectionName key value)
      (written : WritesWithin limit value number) :
      RulesNumber document sectionName key limit (.ok (some number))
  | invalid {value : String}
      (stated : document.States sectionName key value)
      (unwritten : ∀ number, ¬ WritesWithin limit value number) :
      RulesNumber document sectionName key limit (.error (.invalidValue sectionName key value))

/-- Reading the number under a key gives what the document rules, and nothing else. -/
theorem rulesNumber_iff
    {document : Document} {sectionName key : String} {limit : Nat}
    {ruling : Except SettingsError (Option Nat)} :
    RulesNumber document sectionName key limit ruling ↔
      readNumber document sectionName key limit = ruling := by
  constructor
  · intro rules
    cases rules with
    | absent unstated =>
        rw [readNumber, (Document.value?_eq_none_iff _ _ _).mpr unstated]
    | valid stated written =>
        rw [readNumber, (Document.value?_eq_some_iff _ _ _ _).mpr stated]
        simp only [(boundedNumber?_eq_some_iff _ _ _).mpr written]
    | @invalid value stated unwritten =>
        have unread : boundedNumber? limit value = none := by
          simpa only [← boundedNumber?_eq_some_iff, ← Option.eq_none_iff_forall_ne_some]
            using unwritten
        rw [readNumber, (Document.value?_eq_some_iff _ _ _ _).mpr stated]
        simp only [unread]
  · rintro rfl
    rw [readNumber]
    split
    case h_1 found => exact .absent ((Document.value?_eq_none_iff _ _ _).mp found)
    case h_2 value found =>
      have stated := (Document.value?_eq_some_iff _ _ _ _).mp found
      split
      case h_1 number read => exact .valid stated ((boundedNumber?_eq_some_iff _ _ _).mp read)
      case h_2 unread =>
        refine .invalid stated fun number written => ?_
        rw [(boundedNumber?_eq_some_iff _ _ _).mpr written] at unread
        cases unread

/-- The ruling on the number of steps in a second. -/
abbrev RulesRate (document : Document) : Except SettingsError (Option Nat) → Prop :=
  RulesNumber document "emulator" "cycles_per_second" 4294967295

/-- The ruling on the size of a pixel. -/
abbrev RulesScale (document : Document) : Except SettingsError (Option Nat) → Prop :=
  RulesNumber document "display" "scale" 64

theorem RulesNumber.unique
    {document : Document} {sectionName key : String} {limit : Nat}
    {ruling other : Except SettingsError (Option Nat)}
    (rules : RulesNumber document sectionName key limit ruling)
    (rulesOther : RulesNumber document sectionName key limit other) :
    ruling = other :=
  (rulesNumber_iff.mp rules).symm.trans (rulesNumber_iff.mp rulesOther)

/-! ## Layouts -/

/-- The key of the keypad that an entry stands for. -/
def entryKey? (entry : String × Option String) : Option Key :=
  keyIndex? (valueText entry.2)

/-- The entry for a host key: the last with this name, when the case of names is ignored. -/
def entryFor? (entries : Section) (name : String) : Option (String × Option String) :=
  entries.reverse.find? fun entry => Text.lowercase entry.1 == name

/-- A layout holds the entries of a section, all of them valid, and nothing else. -/
structure Holds (entries : Section) (layout : Layout) : Prop where
  valid : ∀ entry ∈ entries, (entryKey? entry).isSome
  find?_eq : ∀ name, layout.find? name = (entryFor? entries name).bind entryKey?

/--
How a document rules the layout: without the section it leaves the layout alone, a section of valid
entries gives the layout that holds them, and an invalid entry makes the section invalid.
-/
inductive RulesLayout (document : Document) : Except SettingsError (Option Layout) → Prop
  | absent (unstated : "keyboard_layout" ∉ document.sections.names) :
      RulesLayout document (.ok none)
  | valid {entries : Section} {layout : Layout}
      (stated : document.sections.Gives "keyboard_layout" entries)
      (holds : Holds entries layout) :
      RulesLayout document (.ok (some layout))
  | invalid {entries : Section} {name : String} {value : Option String}
      (stated : document.sections.Gives "keyboard_layout" entries)
      (member : (name, value) ∈ entries)
      (keyless : entryKey? (name, value) = none) :
      RulesLayout document (.error (.invalidKey name (valueText value)))

/-- Entries read into a layout come before what it holds already. A later entry for a host key is
valid too, so it hides an earlier one. -/
theorem readLayout_eq_ok
    {layout result : Layout} {entries : Section}
    (read : readLayout layout entries = .ok result) :
    (∀ entry ∈ entries, (entryKey? entry).isSome) ∧
      ∀ name, result.find? name =
        ((entryFor? entries name).bind entryKey?).or (layout.find? name) := by
  induction entries generalizing layout with
  | nil =>
      cases read
      exact ⟨by simp, fun name => rfl⟩
  | cons entry rest step =>
      rcases entry with ⟨host, value⟩
      rw [readLayout] at read
      split at read
      case h_2 => cases read
      case h_1 key found =>
        rcases step read with ⟨valid, same⟩
        have isKey : entryKey? (host, value) = some key := found
        refine ⟨?_, fun name => ?_⟩
        · simpa [isKey] using valid
        · rw [same, Dictionary.find?_put, entryFor?, entryFor?, List.reverse_cons,
            List.find?_append]
          cases later : rest.reverse.find? fun entry => Text.lowercase entry.1 == name with
          | none =>
              by_cases named : name = Text.lowercase host
              · simp [named, isKey]
              · simp [named, Ne.symm named]
          | some other =>
              have member : other ∈ rest := List.mem_reverse.mp (List.mem_of_find?_eq_some later)
              rcases Option.isSome_iff_exists.mp (valid other member) with ⟨otherKey, isOther⟩
              simp [isOther]

/-- The error names an entry without a key, with the value as it stands there. -/
theorem readLayout_eq_error
    {layout : Layout} {entries : Section} {error : SettingsError}
    (read : readLayout layout entries = .error error) :
    ∃ name value, (name, value) ∈ entries ∧ entryKey? (name, value) = none ∧
      error = .invalidKey name (valueText value) := by
  induction entries generalizing layout with
  | nil => cases read
  | cons entry rest step =>
      rcases entry with ⟨host, hostValue⟩
      rw [readLayout] at read
      split at read
      case h_1 =>
        rcases step read with ⟨name, value, member, keyless, same⟩
        exact ⟨name, value, .tail _ member, keyless, same⟩
      case h_2 unread =>
        cases read
        exact ⟨host, hostValue, .head _, unread, rfl⟩

theorem holds_of_readLayout
    {entries : Section} {layout : Layout} (read : readLayout [] entries = .ok layout) :
    Holds entries layout := by
  rcases readLayout_eq_ok read with ⟨valid, same⟩
  exact ⟨valid, by simpa using same⟩

/-- A document does not rule a layout valid and rule otherwise as well. -/
theorem RulesLayout.eq_some_of_valid
    {document : Document} {layout : Layout} {ruling : Except SettingsError (Option Layout)}
    (valid : RulesLayout document (.ok (some layout))) (rules : RulesLayout document ruling) :
    ∃ other, ruling = .ok (some other) := by
  rcases valid with _ | ⟨stated, holds⟩
  cases rules with
  | absent unstated => exact absurd stated.mem_names unstated
  | valid => exact ⟨_, rfl⟩
  | invalid stated' member keyless =>
      cases stated.unique stated'
      have isKey := holds.valid _ member
      rw [keyless] at isKey
      cases isKey

/-! ## Documents -/

/--
What becomes of the settings, and the result, when they are read from a source.  The rate is ruled
first, then the scale, then the layout.
-/
inductive Follows (settings : Settings) : Source → Settings → Except SettingsError Unit → Prop
  | unavailable {reason : String} :
      Follows settings (.error reason) settings (.ok ())
  | invalidRate {document : Document} {error : SettingsError}
      (rate : RulesRate document (.error error)) :
      Follows settings (.ok document) settings (.error error)
  | invalidScale {document : Document} {rate? : Option Nat} {error : SettingsError}
      (rate : RulesRate document (.ok rate?))
      (scale : RulesScale document (.error error)) :
      Follows settings (.ok document)
        { settings with cyclesPerSecond := rate?.getD settings.cyclesPerSecond } (.error error)
  | invalidLayout {document : Document} {rate? scale? : Option Nat} {error : SettingsError}
      (rate : RulesRate document (.ok rate?))
      (scale : RulesScale document (.ok scale?))
      (layout : RulesLayout document (.error error)) :
      Follows settings (.ok document)
        { settings with
          cyclesPerSecond := rate?.getD settings.cyclesPerSecond
          scale := scale?.getD settings.scale } (.error error)
  | read {document : Document} {rate? scale? : Option Nat} {layout? : Option Layout}
      (rate : RulesRate document (.ok rate?))
      (scale : RulesScale document (.ok scale?))
      (layout : RulesLayout document (.ok layout?)) :
      Follows settings (.ok document)
        ⟨rate?.getD settings.cyclesPerSecond, scale?.getD settings.scale,
          layout?.getD settings.layout⟩ (.ok ())

/-- Applying a document follows it. -/
theorem follows_apply (settings : Settings) (document : Document) :
    Follows settings (.ok document) (settings.apply document).settings
      (settings.apply document).result := by
  rw [apply]
  split
  case h_2 error rate => exact .invalidRate (rulesNumber_iff.mpr rate)
  case h_1 rate? rate =>
    replace rate := rulesNumber_iff.mpr rate
    rw [applyScale]
    split
    case h_2 error scale => exact .invalidScale rate (rulesNumber_iff.mpr scale)
    case h_1 scale? scale =>
      replace scale := rulesNumber_iff.mpr scale
      rw [applyLayout]
      split
      case h_1 unstated =>
        have layout : RulesLayout document (.ok none) :=
          .absent (Dictionary.find?_eq_none_iff.mp unstated)
        exact .read rate scale layout
      case h_2 entries found =>
        have stated : document.sections.Gives "keyboard_layout" entries :=
          Dictionary.find?_eq_some_iff.mp found
        split
        case h_1 layout read =>
          exact .read rate scale (.valid stated (holds_of_readLayout read))
        case h_2 error read =>
          rcases readLayout_eq_error read with ⟨name, value, member, keyless, rfl⟩
          exact .invalidLayout rate scale (.invalid stated member keyless)

end Settings

end ChipEight
