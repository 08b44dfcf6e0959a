import ChipEight.Proofs.Lowercase
import ChipEight.Settings.Document
import Mathlib.Data.List.Nodup

/-!
# Documents without duplicates

The keys of a section are distinct and in lower case, in whatever order the entries of a text
brought them there.  A reader that looks keys up therefore does not depend on that order: documents
whose sections hold the same entries answer alike.
-/

namespace ChipEight

/-! ## Dictionaries with distinct names -/

namespace Dictionary

variable {Value : Type} {dictionary other : Dictionary Value} {name : String}

theorem mem_names_iff : name ∈ dictionary.names ↔ ∃ value, (name, value) ∈ dictionary := by
  simp [names]

theorem put_of_not_mem (fresh : name ∉ dictionary.names) (value : Value) :
    dictionary.put name value = dictionary ++ [(name, value)] := by
  induction dictionary with
  | nil => rfl
  | cons entry rest step =>
      have differs : entry.1 ≠ name := fun same => fresh (same ▸ List.mem_cons_self)
      have freshRest : name ∉ names rest := fun listed => fresh (List.mem_cons_of_mem _ listed)
      rw [put, if_neg differs, step freshRest, List.cons_append]

theorem names_put_of_mem (listed : name ∈ dictionary.names) (value : Value) :
    (dictionary.put name value).names = dictionary.names := by
  induction dictionary with
  | nil => cases listed
  | cons entry rest step =>
      rw [put]
      split
      case isTrue same => exact congrArg (· :: names rest) same.symm
      case isFalse differs =>
        have listedRest : name ∈ names rest :=
          (List.mem_cons.mp listed).resolve_left (Ne.symm differs)
        exact congrArg (entry.1 :: ·) (step listedRest)

theorem mem_names_put_iff {value : Value} {asked : String} :
    asked ∈ (dictionary.put name value).names ↔ asked ∈ dictionary.names ∨ asked = name := by
  by_cases listed : name ∈ dictionary.names
  · rw [names_put_of_mem listed]
    exact ⟨Or.inl, fun either => either.elim id fun same => same ▸ listed⟩
  · simp [put_of_not_mem listed, names]

theorem nodup_names_put (distinct : dictionary.names.Nodup) (value : Value) :
    (dictionary.put name value).names.Nodup := by
  by_cases listed : name ∈ dictionary.names
  · rwa [names_put_of_mem listed]
  · have appended : (dictionary.put name value).names = dictionary.names ++ [name] := by
      rw [put_of_not_mem listed, names, List.map_append]
      rfl
    rw [appended]
    exact distinct.append (List.nodup_singleton name) (List.disjoint_singleton.mpr listed)

theorem mem_of_find?_eq_some {value : Value} (found : dictionary.find? name = some value) :
    (name, value) ∈ dictionary := by
  rcases find?_eq_some_iff.mp found with ⟨before, after, rfl, _⟩
  exact List.mem_append_right before List.mem_cons_self

/-- Where no name occurs twice, an entry is the first one of its name. -/
theorem find?_eq_some_of_mem
    (distinct : dictionary.names.Nodup) {value : Value} (listed : (name, value) ∈ dictionary) :
    dictionary.find? name = some value := by
  rcases List.append_of_mem listed with ⟨before, after, rfl⟩
  refine find?_eq_some_iff.mpr ⟨before, after, rfl, fun earlier => ?_⟩
  rw [names, List.map_append] at distinct
  exact List.disjoint_of_nodup_append distinct earlier List.mem_cons_self

/-- Where no name occurs twice, to be found is to be listed. -/
theorem find?_eq_some_iff_mem (distinct : dictionary.names.Nodup) (value : Value) :
    dictionary.find? name = some value ↔ (name, value) ∈ dictionary :=
  ⟨mem_of_find?_eq_some, find?_eq_some_of_mem distinct⟩

theorem nodup_names_of_perm
    (distinct : dictionary.names.Nodup) (reordered : dictionary.Perm other) :
    other.names.Nodup :=
  (reordered.map _).nodup_iff.mp distinct

/-- The order of distinct names does not matter to a search. -/
theorem find?_eq_of_perm
    (distinct : dictionary.names.Nodup) (reordered : dictionary.Perm other) :
    dictionary.find? name = other.find? name := by
  refine Option.ext fun value => ?_
  rw [find?_eq_some_iff_mem distinct,
    find?_eq_some_iff_mem (nodup_names_of_perm distinct reordered)]
  exact reordered.mem_iff

end Dictionary

/-! ## Normal documents -/

/-- The keys of a section are distinct and in lower case. -/
structure Section.Normal (entries : Section) : Prop where
  distinct : (Dictionary.names entries).Nodup
  lower : ∀ name ∈ Dictionary.names entries, Text.lowercase name = name

namespace Section.Normal

variable {entries others : Section}

theorem nil : Section.Normal [] where
  distinct := List.nodup_nil
  lower := List.forall_mem_nil _

/-- The first name of a normal section is in lower case and does not come again. -/
theorem of_cons
    {entry : String × Option String} (normal : Section.Normal (entry :: entries)) :
    Text.lowercase entry.1 = entry.1 ∧ entry.1 ∉ Dictionary.names entries ∧ entries.Normal := by
  rcases List.nodup_cons.mp normal.distinct with ⟨fresh, distinct⟩
  rcases List.forall_mem_cons.mp normal.lower with ⟨lower, lowerRest⟩
  exact ⟨lower, fresh, distinct, lowerRest⟩

theorem put
    (normal : entries.Normal) {name : String} (lower : Text.lowercase name = name)
    (value : Option String) : Section.Normal (Dictionary.put entries name value) where
  distinct := Dictionary.nodup_names_put normal.distinct value
  lower asked listed := by
    rcases Dictionary.mem_names_put_iff.mp listed with before | rfl
    · exact normal.lower asked before
    · exact lower

theorem perm (normal : entries.Normal) (reordered : entries.Perm others) : others.Normal where
  distinct := Dictionary.nodup_names_of_perm normal.distinct reordered
  lower name listed := normal.lower name ((reordered.map _).mem_iff.mpr listed)

end Section.Normal

namespace Document

variable {document other : Document}

/-- Every section of the document is normal. -/
def Normal (document : Document) : Prop :=
  ∀ name entries, document.section? name = some entries → entries.Normal

theorem Normal.sectionOrEmpty (normal : document.Normal) (name : String) :
    (document.sectionOrEmpty name).Normal := by
  cases found : document.section? name with
  | none =>
      rw [Document.sectionOrEmpty, found]
      exact .nil
  | some entries =>
      rw [Document.sectionOrEmpty, found]
      exact normal name entries found

/-- A document stays normal if a normal section is put into it. -/
theorem Normal.put
    (normal : document.Normal) (name : String) {entries : Section} (added : entries.Normal) :
    Normal ⟨document.sections.put name entries⟩ := by
  intro asked found listed
  rw [section?, Dictionary.find?_put] at listed
  split at listed
  case isTrue =>
    cases listed
    exact added
  case isFalse => exact normal asked found listed

theorem Normal.putEntry
    (normal : document.Normal) (sectionName : String) {key : String}
    (lower : Text.lowercase key = key) (value : Option String) :
    (document.putEntry sectionName key value).Normal :=
  normal.put sectionName ((normal.sectionOrEmpty sectionName).put lower value)

/-- The key of an entry that was read is in lower case. -/
theorem lowercase_key_of_parseLine
    {number : Nat} {line : List Char} {key : String} {value : Option String}
    (read : parseLine number line = .ok (.entry key value)) : Text.lowercase key = key := by
  have lower {name : List Char} {found : Option String}
      (same : Except.ok (Line.entry (normalName name) found) =
        (Except.ok (Line.entry key value) : Except SyntaxError Line)) :
      Text.lowercase key = key := by
    rw [Except.ok.injEq, Line.entry.injEq] at same
    rw [← same.1]
    exact Text.lowercase_lowercase _
  rw [parseLine] at read
  split at read
  case h_1 => cases read
  case h_2 => split at read <;> cases read
  case h_3 =>
    rw [parseEntry] at read
    split at read
    case h_1 => exact lower read
    case h_2 =>
      split at read
      case isTrue => cases read
      case isFalse => exact lower read

/-- Whatever the lines say, reading them keeps a document normal. -/
theorem Normal.parseLines
    {number : Nat} {sectionName : String} {lines : List (List Char)} {result : Document}
    (normal : document.Normal)
    (read : Document.parseLines number sectionName document lines = .ok result) :
    result.Normal := by
  induction lines generalizing number sectionName document with
  | nil =>
      cases read
      exact normal
  | cons line rest step =>
      rw [Document.parseLines] at read
      split at read
      case h_1 => cases read
      case h_2 => exact step normal read
      case h_3 name _ => exact step (normal.put name (normal.sectionOrEmpty name)) read
      case h_4 key value entry =>
        have lower := lowercase_key_of_parseLine entry
        exact step (normal.putEntry sectionName lower value) read

/-- Every document that is read from a text is normal. -/
theorem normal_of_parse {text : String} (read : parse text = .ok document) : document.Normal := by
  have empty : Normal ⟨[]⟩ := fun _ _ found => nomatch found
  exact empty.parseLines read

/-- Each section of the one document has the entries of that section of the other, in any order. -/
def Reordered (document other : Document) : Prop :=
  ∀ name, Option.Rel List.Perm (document.section? name) (other.section? name)

namespace Reordered

variable {name : String}

/-- A section that one order lacks is absent from the other too. -/
theorem section?_eq_none
    (reordered : document.Reordered other) (absent : document.section? name = none) :
    other.section? name = none := by
  have sections := reordered name
  rw [absent] at sections
  generalize other.section? name = found at sections ⊢
  cases sections with
  | none => rfl

/-- A section has the same entries in either order of the document, up to their own order. -/
theorem section?_eq_some
    {entries : Section} (reordered : document.Reordered other)
    (present : document.section? name = some entries) :
    ∃ others, other.section? name = some others ∧ entries.Perm others := by
  have sections := reordered name
  rw [present] at sections
  generalize other.section? name = found at sections ⊢
  cases sections with
  | some permuted => exact ⟨_, rfl, permuted⟩

/-- What a key stands for does not depend on the order. -/
theorem value?_eq
    (reordered : document.Reordered other) (normal : document.Normal) (sectionName key : String) :
    other.value? sectionName key = document.value? sectionName key := by
  rw [value?, value?, sectionOrEmpty, sectionOrEmpty]
  cases present : document.section? sectionName with
  | none => rw [reordered.section?_eq_none present]
  | some entries =>
      rcases reordered.section?_eq_some present with ⟨others, presentOther, permuted⟩
      rw [presentOther, Option.getD_some, Option.getD_some,
        Dictionary.find?_eq_of_perm (normal sectionName entries present).distinct permuted]

end Reordered

end Document

end ChipEight
