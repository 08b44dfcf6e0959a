import ChipEight.Proofs.Documents
import ChipEight.Proofs.Reading

/-!
# Layouts without an order

The entries of the layout section come in no particular order, and the reading stops at the first
one without a key.  Which entry that is depends on the order, but not whether there is one; and if
there is none, the layout holds each of the entries, so its order does not show.

Names are looked up in lower case, and that is how the section holds them.
-/

namespace ChipEight.Settings

/-! ## The layout of a section -/

/-- The layout that has an entry for each entry of the section with a key. -/
def layoutOf (entries : Section) : Layout :=
  entries.filterMap fun entry => (entryKey? entry).map fun key => (entry.1, key)

section LayoutOf

variable {entries others : Section}

theorem layoutOf_cons
    {entry : String × Option String} {key : Key} (found : entryKey? entry = some key)
    (rest : Section) : layoutOf (entry :: rest) = (entry.1, key) :: layoutOf rest := by
  rw [layoutOf, List.filterMap_cons, found]
  rfl

/-- The layout maps a name to a key exactly if an entry of that name has the key as its value. -/
theorem mem_layoutOf_iff {name : String} {key : Key} :
    (name, key) ∈ layoutOf entries ↔
      ∃ value, (name, value) ∈ entries ∧ keyIndex? (valueText value) = some key := by
  simp [layoutOf, entryKey?]

/-- The order of the entries decides the order of the layout and nothing else. -/
theorem layoutOf_perm (reordered : entries.Perm others) :
    (layoutOf entries).Perm (layoutOf others) :=
  reordered.filterMap _

/-- Valid entries all come into the layout. -/
theorem names_layoutOf (valid : ∀ entry ∈ entries, (entryKey? entry).isSome) :
    (layoutOf entries).names = Dictionary.names entries := by
  induction entries with
  | nil => rfl
  | cons entry rest step =>
      rcases List.forall_mem_cons.mp valid with ⟨firstValid, restValid⟩
      rcases Option.isSome_iff_exists.mp firstValid with ⟨key, found⟩
      rw [layoutOf_cons found]
      exact congrArg (entry.1 :: ·) (step restValid)

/-- Entries with new names in lower case, all of them with a key, are added one after the other: a
name that was added is not among those still to come. -/
theorem readLayout_eq_append
    {layout : Layout} (normal : entries.Normal)
    (fresh : ∀ name ∈ Dictionary.names entries, name ∉ layout.names)
    (valid : ∀ entry ∈ entries, (entryKey? entry).isSome) :
    readLayout layout entries = .ok (layout ++ layoutOf entries) := by
  induction entries generalizing layout with
  | nil => rw [readLayout, layoutOf, List.filterMap_nil, List.append_nil]
  | cons entry rest step =>
      rcases normal.of_cons with ⟨lower, notLater, restNormal⟩
      rcases List.forall_mem_cons.mp fresh with ⟨notBefore, restFresh⟩
      rcases List.forall_mem_cons.mp valid with ⟨firstValid, restValid⟩
      rcases Option.isSome_iff_exists.mp firstValid with ⟨key, found⟩
      have isKey : keyIndex? (valueText entry.2) = some key := found
      have stillFresh (name : String) (listed : name ∈ Dictionary.names rest) :
          name ∉ Dictionary.names (layout ++ [(entry.1, key)]) := by
        intro before
        rw [Dictionary.names, List.map_append, List.mem_append] at before
        rcases before with earlier | same
        · exact restFresh name listed earlier
        · obtain rfl : name = entry.1 := List.mem_singleton.mp same
          exact notLater listed
      simp only [readLayout, isKey]
      rw [lower, Dictionary.put_of_not_mem notBefore, step restNormal stillFresh restValid,
        layoutOf_cons found, List.append_assoc, List.singleton_append]

theorem readLayout_of_valid
    (normal : entries.Normal) (valid : ∀ entry ∈ entries, (entryKey? entry).isSome) :
    readLayout [] entries = .ok (layoutOf entries) :=
  readLayout_eq_append normal (fun _ _ => List.not_mem_nil) valid

/-- Where an entry has no key, an entry without one is refused. -/
theorem readLayout_of_invalid
    {entry : String × Option String} (listed : entry ∈ entries) (keyless : entryKey? entry = none) :
    ∃ name value, (name, value) ∈ entries ∧ entryKey? (name, value) = none ∧
      readLayout [] entries = .error (.invalidKey name (valueText value)) := by
  cases read : readLayout [] entries with
  | ok layout =>
      have isKey := (readLayout_eq_ok read).1 entry listed
      rw [keyless] at isKey
      cases isKey
  | error error =>
      rcases readLayout_eq_error read with ⟨name, value, member, unread, rfl⟩
      exact ⟨name, value, member, unread, rfl⟩

end LayoutOf

/-! ## What becomes of the layout -/

/-- The reading fails with the name and the value of an entry that has no key, and the layout stays
as it was. -/
structure Refuses (settings : Settings) (entries : Section) (reading : Reading) : Prop where
  failed : ∃ name value, (name, value) ∈ entries ∧ entryKey? (name, value) = none ∧
    reading.result = .error (.invalidKey name (valueText value))
  kept : reading.settings.layout = settings.layout

/--
The reading succeeds, and each entry has a key.  The new layout has an entry for each of the
entries, and a name in any case stands for the key of the entry that has it in lower case.
-/
structure Adopts (entries : Section) (reading : Reading) : Prop where
  succeeded : reading.result = .ok ()
  valid : ∀ entry ∈ entries, (entryKey? entry).isSome
  names : reading.settings.layout.names.Perm (Dictionary.names entries)
  key?_eq_some_iff : ∀ name key, reading.settings.key? name = some key ↔
    ∃ value, (Text.lowercase name, value) ∈ entries ∧ keyIndex? (valueText value) = some key

section Outcomes

variable {settings : Settings} {entries others : Section} {reading : Reading}

/-- A refusal of some entry is one in any order of the entries. -/
theorem Refuses.perm (refuses : Refuses settings others reading) (reordered : entries.Perm others) :
    Refuses settings entries reading where
  failed := by
    rcases refuses.failed with ⟨name, value, listed, rest⟩
    exact ⟨name, value, reordered.mem_iff.mpr listed, rest⟩
  kept := refuses.kept

theorem Adopts.perm (adopts : Adopts others reading) (reordered : entries.Perm others) :
    Adopts entries reading where
  succeeded := adopts.succeeded
  valid entry listed := adopts.valid entry (reordered.mem_iff.mp listed)
  names := adopts.names.trans (reordered.map _).symm
  key?_eq_some_iff name key := by
    simp only [reordered.mem_iff]
    exact adopts.key?_eq_some_iff name key

/-- A name that no entry has in lower case is unknown, also if the replaced layout knew it. -/
theorem Adopts.key?_eq_none_iff (adopts : Adopts entries reading) (name : String) :
    reading.settings.key? name = none ↔ ∀ value, (Text.lowercase name, value) ∉ entries := by
  constructor
  · intro unknown value listed
    rcases Option.isSome_iff_exists.mp (adopts.valid _ listed) with ⟨key, found⟩
    have known := (adopts.key?_eq_some_iff name key).mpr ⟨value, listed, found⟩
    rw [unknown] at known
    cases known
  · intro absent
    refine Option.eq_none_iff_forall_ne_some.mpr fun key known => ?_
    rcases (adopts.key?_eq_some_iff name key).mp known with ⟨value, listed, _⟩
    exact absent value listed

/-- If no other entry is without a key, this is the one that is named. -/
theorem Refuses.result_eq
    (refuses : Refuses settings entries reading) {entry : String × Option String}
    (only : ∀ rival ∈ entries, entryKey? rival = none → rival = entry) :
    reading.result = .error (.invalidKey entry.1 (valueText entry.2)) := by
  rcases refuses.failed with ⟨name, value, listed, keyless, failed⟩
  rw [← only (name, value) listed keyless]
  exact failed

/-- A reading that ends with the layout of the entries holds them by lookup. -/
theorem adopts_of_layout
    (normal : entries.Normal) (valid : ∀ entry ∈ entries, (entryKey? entry).isSome)
    (succeeded : reading.result = .ok ()) (layout : reading.settings.layout = layoutOf entries) :
    Adopts entries reading where
  succeeded := succeeded
  valid := valid
  names := by rw [layout, names_layoutOf valid]
  key?_eq_some_iff name key := by
    have distinct : (layoutOf entries).names.Nodup := by
      rw [names_layoutOf valid]
      exact normal.distinct
    rw [key?, layout, Dictionary.find?_eq_some_iff_mem distinct, mem_layoutOf_iff]

variable {document other : Document}

theorem result_applyLayout_of_valid
    (stated : document.section? layoutSection = some entries) (normal : entries.Normal)
    (valid : ∀ entry ∈ entries, (entryKey? entry).isSome) (settings : Settings) :
    (settings.applyLayout document).result = .ok () ∧
      (settings.applyLayout document).settings.layout = layoutOf entries := by
  simp only [applyLayout, stated, readLayout_of_valid normal valid, and_self]

theorem refuses_applyLayout
    (stated : document.section? layoutSection = some entries) {entry : String × Option String}
    (listed : entry ∈ entries) (keyless : entryKey? entry = none) :
    Refuses settings entries (settings.applyLayout document) := by
  rcases readLayout_of_invalid listed keyless with ⟨name, value, member, unread, failed⟩
  refine ⟨⟨name, value, member, unread, ?_⟩, ?_⟩
  · simp only [applyLayout, stated, failed]
  · simp only [applyLayout, stated, failed]

/-! ## Documents that differ in the order of their entries -/

/-- The rate of the document is invalid, or it is not and the scale is; this is the error. -/
def RefusesNumber (document : Document) (error : SettingsError) : Prop :=
  RulesRate document (.error error) ∨
    ∃ rate?, RulesRate document (.ok rate?) ∧ RulesScale document (.error error)

/-- A number is read alike from any order of a document. -/
theorem readNumber_eq_of_reordered
    (reordered : document.Reordered other) (normal : document.Normal) (sectionName key : String)
    (limit : Nat) :
    readNumber other sectionName key limit = readNumber document sectionName key limit := by
  rw [readNumber, readNumber, reordered.value?_eq normal]

theorem refusesNumber_iff_of_reordered
    (reordered : document.Reordered other) (normal : document.Normal) (error : SettingsError) :
    RefusesNumber other error ↔ RefusesNumber document error := by
  simp only [RefusesNumber, rulesNumber_iff, readNumber_eq_of_reordered reordered normal]

/-- An invalid number ends the reading before the layout. -/
theorem apply_of_refusesNumber
    {error : SettingsError} (refuses : RefusesNumber document error) (settings : Settings) :
    (settings.apply document).result = .error error ∧
      (settings.apply document).settings.layout = settings.layout := by
  simp only [RefusesNumber, rulesNumber_iff] at refuses
  rcases refuses with rate | ⟨rate?, rate, scale⟩
  · simp only [apply, rate, and_self]
  · simp only [apply, rate, applyScale, scale, and_self]

/-- With valid numbers, what becomes of the layout is up to the layout section. -/
theorem apply_of_accepted
    (accepted : ∀ error, ¬ RefusesNumber document error) (settings : Settings) :
    ∃ before : Settings, before.layout = settings.layout ∧
      settings.apply document = before.applyLayout document := by
  simp only [RefusesNumber, rulesNumber_iff] at accepted
  cases rate : readNumber document "emulator" "cycles_per_second" maxCyclesPerSecond with
  | error error => exact absurd (Or.inl rate) (accepted error)
  | ok rate? =>
      cases scale : readNumber document "display" "scale" maxScale with
      | error error => exact absurd (Or.inr ⟨rate?, rate, scale⟩) (accepted error)
      | ok scale? =>
          let before : Settings :=
            { settings with
              cyclesPerSecond := rate?.getD settings.cyclesPerSecond
              scale := scale?.getD settings.scale }
          refine ⟨before, rfl, ?_⟩
          simp only [apply, rate, applyScale, scale, before]

/-- With acceptable numbers, an invalid entry of the layout is what is refused. -/
theorem refuses_apply
    (accepted : ∀ error, ¬ RefusesNumber document error)
    (stated : document.section? layoutSection = some entries) {entry : String × Option String}
    (listed : entry ∈ entries) (keyless : entryKey? entry = none) :
    Refuses settings entries (settings.apply document) := by
  rcases apply_of_accepted accepted settings with ⟨before, layout, applied⟩
  have refuses : Refuses before entries (before.applyLayout document) :=
    refuses_applyLayout stated listed keyless
  rw [applied]
  exact ⟨refuses.failed, refuses.kept.trans layout⟩

theorem adopts_apply
    (accepted : ∀ error, ¬ RefusesNumber document error)
    (stated : document.section? layoutSection = some entries) (normal : entries.Normal)
    (valid : ∀ entry ∈ entries, (entryKey? entry).isSome) (settings : Settings) :
    Adopts entries (settings.apply document) ∧
      (settings.apply document).settings.layout = layoutOf entries := by
  rcases apply_of_accepted accepted settings with ⟨before, _, applied⟩
  rcases result_applyLayout_of_valid stated normal valid before with ⟨succeeded, layout⟩
  rw [applied]
  exact ⟨adopts_of_layout normal valid succeeded layout, layout⟩

end Outcomes

/--
A layout does not depend on the order of its section.  Apply two normal documents that differ only
in the order of the entries of their sections, of which one is the layout.

If a number is invalid, both readings fail with the same error and keep the layout.  If the numbers
are valid, either both fail with the name of an entry that has no key, the same one if there is only
one, and keep the layout.  Or both succeed with the same layout.  It has one entry for each entry of
the section, and a name stands for a key exactly if the section maps the name in lower case to it.
So other names are unknown, also those of the layout that was replaced, and the case of a name makes
no difference.
-/
theorem apply_regardless_of_order
    (settings : Settings) {document other : Document} {entries : Section}
    (normal : document.Normal) (reordered : document.Reordered other)
    (stated : document.section? layoutSection = some entries) :
    let first := settings.apply document
    let second := settings.apply other
    (∀ error, RefusesNumber document error →
      first.result = .error error ∧ second.result = .error error ∧
        first.settings.layout = settings.layout ∧ second.settings.layout = settings.layout) ∧
    ((∀ error, ¬ RefusesNumber document error) →
      (Refuses settings entries first ∧ Refuses settings entries second ∧
        ∀ entry, (∀ rival ∈ entries, entryKey? rival = none → rival = entry) →
          first.result = .error (.invalidKey entry.1 (valueText entry.2)) ∧
            second.result = first.result) ∨
      (Adopts entries first ∧ Adopts entries second ∧
        first.settings.layout.Perm second.settings.layout ∧
        ∀ name, first.settings.key? name = second.settings.key? name ∧
          (first.settings.key? name = none ↔ ∀ value, (Text.lowercase name, value) ∉ entries) ∧
          ∀ spelled, Text.lowercase spelled = Text.lowercase name →
            first.settings.key? spelled = first.settings.key? name)) := by
  intro first second
  rcases reordered.section?_eq_some stated with ⟨others, statedOther, permuted⟩
  have entriesNormal : entries.Normal := normal _ _ stated
  have sameNumbers := refusesNumber_iff_of_reordered reordered normal
  constructor
  · intro error refuses
    rcases apply_of_refusesNumber refuses settings with ⟨result, layout⟩
    rcases apply_of_refusesNumber ((sameNumbers error).mpr refuses) settings with
      ⟨resultOther, layoutOther⟩
    exact ⟨result, resultOther, layout, layoutOther⟩
  · intro accepted
    have acceptedOther (error : SettingsError) : ¬ RefusesNumber other error :=
      (sameNumbers error).not.mpr (accepted error)
    by_cases valid : ∀ entry ∈ entries, (entryKey? entry).isSome
    · right
      have validOther : ∀ entry ∈ others, (entryKey? entry).isSome :=
        fun entry listed => valid entry (permuted.mem_iff.mpr listed)
      rcases adopts_apply accepted stated entriesNormal valid settings with ⟨adopts, layout⟩
      rcases adopts_apply acceptedOther statedOther (entriesNormal.perm permuted) validOther
        settings with ⟨adoptsOther, layoutOther⟩
      have adoptsSame : Adopts entries second := adoptsOther.perm permuted
      refine ⟨adopts, adoptsSame, ?_, fun name => ⟨?_, adopts.key?_eq_none_iff name, ?_⟩⟩
      · rw [layout, layoutOther]
        exact layoutOf_perm permuted
      · refine Option.ext fun key => ?_
        rw [adopts.key?_eq_some_iff, adoptsSame.key?_eq_some_iff]
      · intro spelled same
        rw [key?, key?, same]
    · left
      obtain ⟨entry, listed, keyless⟩ : ∃ entry ∈ entries, entryKey? entry = none := by
        simpa using valid
      have refuses : Refuses settings entries first := refuses_apply accepted stated listed keyless
      have refusesOther : Refuses settings entries second :=
        (refuses_apply acceptedOther statedOther (permuted.mem_iff.mp listed) keyless).perm permuted
      refine ⟨refuses, refusesOther, fun only onlyInvalid => ?_⟩
      have named := refuses.result_eq onlyInvalid
      exact ⟨named, (refusesOther.result_eq onlyInvalid).trans named.symm⟩

/-- The same two entries in either order and in different cases. -/
def upThenDown : Document :=
  ⟨[("keyboard_layout", [("up", some "0x2"), ("down", some "8")])]⟩

def downThenUp : Document :=
  ⟨[("keyboard_layout", [("down", some "8"), ("up", some "0x2")])]⟩

theorem apply_regardless_of_order_upThenDown :
    Document.parse "[keyboard_layout]\nUp = 0x2\nDown = 8\n" = .ok upThenDown ∧
      Document.parse "[keyboard_layout]\nDOWN = 8\nUP = 0x2\n" = .ok downThenUp ∧
      upThenDown.Reordered downThenUp ∧
      (default.apply downThenUp).settings.key? "uP" = some 2 ∧
      (default.apply downThenUp).settings.key? "x" = none := by
  have read : Document.parse "[keyboard_layout]\nUp = 0x2\nDown = 8\n" = .ok upThenDown := by rfl
  have readOther :
      Document.parse "[keyboard_layout]\nDOWN = 8\nUP = 0x2\n" = .ok downThenUp := by rfl
  have reordered : upThenDown.Reordered downThenUp := by
    intro name
    by_cases same : name = "keyboard_layout"
    · subst same
      exact .some (List.Perm.swap _ _ _)
    · have absent : upThenDown.section? name = none := by
        simp [upThenDown, Document.section?, Dictionary.find?_cons, same]
      have absentOther : downThenUp.section? name = none := by
        simp [downThenUp, Document.section?, Dictionary.find?_cons, same]
      rw [absent, absentOther]
      exact .none
  have normal : upThenDown.Normal := Document.normal_of_parse read
  have accepted (error : SettingsError) : ¬ RefusesNumber upThenDown error := by
    have rate : readNumber upThenDown "emulator" "cycles_per_second" 4294967295 = .ok none := rfl
    have scale : readNumber upThenDown "display" "scale" 64 = .ok none := rfl
    simp only [RefusesNumber, rulesNumber_iff, rate, scale]
    rintro (impossible | ⟨_, _, impossible⟩) <;> cases impossible
  have stated : upThenDown.section? layoutSection =
      some [("up", some "0x2"), ("down", some "8")] := rfl
  rcases (apply_regardless_of_order default normal reordered stated).2 accepted with
    ⟨refuses, _⟩ | ⟨_, adoptsOther, _, names⟩
  · have succeeded : (default.apply upThenDown).result = .ok () := by rfl
    rcases refuses.failed with ⟨_, _, _, _, failed⟩
    rw [succeeded] at failed
    cases failed
  · have upper : Text.lowercase "uP" = "up" := by rfl
    have lower : Text.lowercase "x" = "x" := by rfl
    rcases names "x" with ⟨same, unknown, _⟩
    refine ⟨read, readOther, reordered, ?_, same.symm.trans (unknown.mpr ?_)⟩
    · rw [adoptsOther.key?_eq_some_iff, upper]
      exact ⟨some "0x2", List.mem_cons_self, by rfl⟩
    · rw [lower]
      simp

end ChipEight.Settings
