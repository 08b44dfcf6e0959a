import ChipEight.Proofs.Layouts
import Mathlib.Data.Fintype.Card

/-!
# How much of the keypad a layout covers

A layout is warned about if it has fewer entries than the keypad has keys, and the warning tells the
number of its entries.  That is the number of the keys that can be pressed as long as no two host
keys stand for the same key.  Otherwise it is larger: the warning then tells too many keys, and with
sixteen host keys it is not given at all, though a key of the keypad may have none.
-/

namespace ChipEight

/-- The warnings that a reading gave, in their words. -/
def Reading.warnings (reading : Reading) : List String :=
  (reading.notices.filter fun notice => notice.level = .warning).map Notice.message

namespace Settings

/-! ## Host keys -/

/-- The host keys that a section names, whatever the case of their names. -/
def hostNames (entries : Section) : Finset String :=
  (entries.map fun entry => Text.lowercase entry.1).toFinset

section HostNames

variable {entries : Section} {layout result : Layout}

/-- Reading an entry takes a key and puts it into the layout. -/
theorem readLayout_cons_eq_ok
    {entry : String × Option String} (read : readLayout layout (entry :: entries) = .ok result) :
    ∃ key, readLayout (layout.put (Text.lowercase entry.1) key) entries = .ok result := by
  rcases entry with ⟨name, value⟩
  rw [readLayout] at read
  split at read
  case h_1 key _ => exact ⟨key, read⟩
  case h_2 => cases read

/-- Reading entries never gives a host key two places in the layout. -/
theorem nodup_names_readLayout
    (read : readLayout layout entries = .ok result) (distinct : layout.names.Nodup) :
    result.names.Nodup := by
  induction entries generalizing layout with
  | nil =>
      cases read
      exact distinct
  | cons entry rest step =>
      rcases readLayout_cons_eq_ok read with ⟨key, read⟩
      exact step read (Dictionary.nodup_names_put distinct key)

/-- The layout that is read names what it named before and the host keys of the entries. -/
theorem mem_names_readLayout_iff
    (read : readLayout layout entries = .ok result) (name : String) :
    name ∈ result.names ↔ name ∈ layout.names ∨ name ∈ hostNames entries := by
  induction entries generalizing layout with
  | nil =>
      cases read
      simp [hostNames]
  | cons entry rest step =>
      rcases readLayout_cons_eq_ok read with ⟨key, read⟩
      rw [step read, Dictionary.mem_names_put_iff]
      simp [hostNames, or_assoc]

theorem exists_readLayout (valid : ∀ entry ∈ entries, (entryKey? entry).isSome) :
    ∃ layout, readLayout [] entries = .ok layout := by
  cases read : readLayout [] entries with
  | ok layout => exact ⟨layout, rfl⟩
  | error error =>
      rcases readLayout_eq_error read with ⟨name, value, listed, keyless, _⟩
      have isKey := valid _ listed
      rw [keyless] at isKey
      cases isKey

end HostNames

/-! ## Layouts that were read -/

/-- The names of a layout are distinct and in lower case, and they are these. -/
structure NamedBy (names : Finset String) (layout : Layout) : Prop where
  distinct : layout.names.Nodup
  lower : ∀ name ∈ layout.names, Text.lowercase name = name
  names_eq : layout.names.toFinset = names

theorem namedBy_of_readLayout
    {entries : Section} {layout : Layout} (read : readLayout [] entries = .ok layout) :
    NamedBy (hostNames entries) layout := by
  have listed (name : String) : name ∈ layout.names ↔ name ∈ hostNames entries := by
    simpa [Dictionary.names] using mem_names_readLayout_iff read name
  refine ⟨nodup_names_readLayout read List.nodup_nil, ?_, ?_⟩
  · intro name member
    obtain ⟨entry, _, rfl⟩ : ∃ entry ∈ entries, Text.lowercase entry.1 = name := by
      simpa [hostNames] using (listed name).mp member
    exact Text.lowercase_lowercase _
  · ext name
    rw [List.mem_toFinset, listed]

/-- The keys of the keypad in a layout. -/
def targets (layout : Layout) : Finset Key :=
  (layout.map fun entry => entry.2).toFinset

/-- Two host keys stand for the same key of the keypad. -/
def SharesKey (settings : Settings) : Prop :=
  ∃ name other key, Text.lowercase name ≠ Text.lowercase other ∧
    settings.key? name = some key ∧ settings.key? other = some key

/-- A key of the keypad has no host key. -/
def LacksKey (settings : Settings) : Prop :=
  ∃ key, ∀ name, settings.key? name ≠ some key

namespace NamedBy

variable {names : Finset String} {settings : Settings}

theorem length_eq (named : NamedBy names settings.layout) :
    settings.layout.length = names.card := by
  rw [← named.names_eq, List.toFinset_card_of_nodup named.distinct, Dictionary.names,
    List.length_map]

theorem key?_eq_some_iff (named : NamedBy names settings.layout) (name : String) (key : Key) :
    settings.key? name = some key ↔ (Text.lowercase name, key) ∈ settings.layout :=
  Dictionary.find?_eq_some_iff_mem named.distinct key

/-- An entry can be looked up under its own name, which is in lower case. -/
theorem lowercase_eq
    (named : NamedBy names settings.layout) {name : String} {key : Key}
    (listed : (name, key) ∈ settings.layout) : Text.lowercase name = name :=
  named.lower name (Dictionary.mem_names_iff.mpr ⟨key, listed⟩)

/-- A keypad key is a target exactly if the lookup of some host key gives it. -/
theorem mem_targets_iff (named : NamedBy names settings.layout) (key : Key) :
    key ∈ targets settings.layout ↔ ∃ name, settings.key? name = some key := by
  simp only [named.key?_eq_some_iff, targets, List.mem_toFinset, List.mem_map, Prod.exists,
    exists_eq_right]
  constructor
  · rintro ⟨name, listed⟩
    exact ⟨name, (named.lowercase_eq listed).symm ▸ listed⟩
  · rintro ⟨name, listed⟩
    exact ⟨_, listed⟩

/-- There are fewer targets than keys exactly if some key has no host key. -/
theorem card_lt_iff (named : NamedBy names settings.layout) :
    (targets settings.layout).card < 16 ↔ LacksKey settings := by
  have full : Fintype.card Key = 16 := Fintype.card_fin 16
  rw [← full, Finset.card_lt_iff_ne_univ, Ne, Finset.eq_univ_iff_forall]
  simp only [LacksKey, named.mem_targets_iff, not_forall, not_exists]

theorem card_le (named : NamedBy names settings.layout) :
    (targets settings.layout).card ≤ names.card := by
  rw [← named.length_eq, targets]
  exact (List.toFinset_card_le _).trans_eq (List.length_map _)

/-- The layout repeats a keypad key exactly if two host keys share one. -/
theorem nodup_keys_iff (named : NamedBy names settings.layout) :
    (settings.layout.map fun entry => entry.2).Nodup ↔ ¬ SharesKey settings := by
  have distinct : settings.layout.Nodup := List.Nodup.of_map _ named.distinct
  rw [List.nodup_map_iff_inj_on distinct]
  constructor
  · rintro injective ⟨name, other, key, differ, found, foundOther⟩
    rw [named.key?_eq_some_iff] at found foundOther
    exact differ (congrArg Prod.fst (injective _ found _ foundOther rfl))
  · rintro unshared ⟨name, key⟩ listed ⟨other, _⟩ listedOther rfl
    by_cases same : name = other
    · rw [same]
    · refine absurd ⟨name, other, key, ?_, ?_, ?_⟩ unshared
      · rwa [named.lowercase_eq listed, named.lowercase_eq listedOther]
      · rwa [named.key?_eq_some_iff, named.lowercase_eq listed]
      · rwa [named.key?_eq_some_iff, named.lowercase_eq listedOther]

/-- There are as many keys as host keys exactly if no two host keys share one. -/
theorem card_eq_iff (named : NamedBy names settings.layout) :
    (targets settings.layout).card = names.card ↔ ¬ SharesKey settings := by
  rw [← named.nodup_keys_iff, ← named.length_eq, targets, ← List.length_map fun entry => entry.2]
  exact Multiset.toFinset_card_eq_card_iff_nodup

end NamedBy

/-! ## Warnings -/

/-- The warning that tells a number of keys, if that is not all of them. -/
def incompleteWarning (count : Nat) : List String :=
  if count < 16 then
    ["Keyboard layout only maps " ++ toString count ++
      " of 16 keys. Controls may not work as expected."]
  else []

theorem incompleteWarning_eq_nil_iff (count : Nat) : incompleteWarning count = [] ↔ 16 ≤ count := by
  rw [incompleteWarning]
  split <;> simp_all

/-- The warning tells its number. -/
theorem eq_of_incompleteWarning_eq
    {count other : Nat} (small : count < 16)
    (same : incompleteWarning other = incompleteWarning count) : other = count := by
  rw [incompleteWarning, incompleteWarning, if_pos small] at same
  split at same
  case isTrue =>
    have told : other.repr = count.repr := by simpa using same
    have digits : Nat.toDigits 10 other = Nat.toDigits 10 count := by
      simpa only [Nat.repr_eq_ofList_toDigits, String.ofList_inj] using told
    calc
      other = Nat.ofDigitChars 10 (Nat.toDigits 10 other) 0 := Nat.ofDigitChars_ten_toDigits.symm
      _ = Nat.ofDigitChars 10 (Nat.toDigits 10 count) 0 := by rw [digits]
      _ = count := Nat.ofDigitChars_ten_toDigits
  case isFalse => cases same

namespace NamedBy

variable {names : Finset String} {settings : Settings}

/-- A layout with fewer than sixteen host keys leaves a key of the keypad without one. -/
theorem lacksKey (named : NamedBy names settings.layout) (few : names.card < 16) :
    LacksKey settings :=
  named.card_lt_iff.mp (named.card_le.trans_lt few)

/-- As long as no two host keys share a key, counting either comes to the same. -/
theorem card_lt_iff_of_not_sharesKey
    (named : NamedBy names settings.layout) (unshared : ¬ SharesKey settings) :
    names.card < 16 ↔ LacksKey settings := by
  rw [← named.card_eq_iff.mpr unshared]
  exact named.card_lt_iff

/--
The warning for the host keys is the one for the keys, unless two host keys share a key and
another key is left without. If each key has a host key, there are sixteen at least of either and
neither warns.
-/
theorem incompleteWarning_eq_iff (named : NamedBy names settings.layout) :
    incompleteWarning names.card = incompleteWarning (targets settings.layout).card ↔
      ¬ (SharesKey settings ∧ LacksKey settings) := by
  constructor
  · rintro right ⟨shares, lacks⟩
    have same : names.card = (targets settings.layout).card :=
      eq_of_incompleteWarning_eq (named.card_lt_iff.mpr lacks) right
    exact named.card_eq_iff.mp same.symm shares
  · intro harmless
    by_cases shares : SharesKey settings
    · have full : 16 ≤ (targets settings.layout).card :=
        not_lt.mp fun few => harmless ⟨shares, named.card_lt_iff.mp few⟩
      rw [(incompleteWarning_eq_nil_iff _).mpr full,
        (incompleteWarning_eq_nil_iff _).mpr (full.trans named.card_le)]
    · rw [named.card_eq_iff.mpr shares]

end NamedBy

theorem level_mappingNotices (entries : Section) :
    ∀ notice ∈ mappingNotices entries, notice.level = .debug := by
  induction entries with
  | nil => exact List.forall_mem_nil _
  | cons entry rest step =>
      rcases entry with ⟨name, value⟩
      rw [mappingNotices]
      split
      case h_1 => exact List.forall_mem_cons.mpr ⟨rfl, step⟩
      case h_2 => exact List.forall_mem_nil _

/-- Applying a layout warns of nothing but its length. -/
theorem warnings_applyLayout
    {settings : Settings} {document : Document} {entries : Section} {layout : Layout}
    (stated : document.section? layoutSection = some entries)
    (read : readLayout [] entries = .ok layout) :
    (settings.applyLayout document).warnings = incompleteWarning layout.length := by
  have mapped : (mappingNotices entries).filter (fun notice => notice.level = .warning) = [] := by
    refine List.filter_eq_nil_iff.mpr fun notice listed => ?_
    rw [level_mappingNotices entries notice listed]
    decide
  simp only [Reading.warnings, applyLayout, stated, read, List.filter_append, mapped,
    List.nil_append, layoutWarning, incompleteWarning]
  split <;> rfl

/-- No notice comes before those of the layout. -/
theorem notices_apply_of_refusesNumber
    {document : Document} {error : SettingsError} (refuses : RefusesNumber document error)
    (settings : Settings) : (settings.apply document).notices = [] := by
  simp only [RefusesNumber, rulesNumber_iff] at refuses
  rcases refuses with rate | ⟨rate?, rate, scale⟩
  · simp only [apply, rate]
  · simp only [apply, rate, applyScale, scale]

/-- A section of valid entries becomes the layout, which its host keys name, and their number is the
one that is warned about. -/
theorem covers_apply
    {document : Document} {entries : Section}
    (stated : document.section? layoutSection = some entries)
    (valid : ∀ entry ∈ entries, (entryKey? entry).isSome)
    (accepted : ∀ error, ¬ RefusesNumber document error) (settings : Settings) :
    (settings.apply document).result = .ok () ∧
      NamedBy (hostNames entries) (settings.apply document).settings.layout ∧
      (settings.apply document).warnings = incompleteWarning (hostNames entries).card := by
  rcases exists_readLayout valid with ⟨layout, read⟩
  rcases apply_of_accepted accepted settings with ⟨before, _, applied⟩
  have named : NamedBy (hostNames entries) (before.applyLayout document).settings.layout := by
    simp only [applyLayout, stated, read]
    exact namedBy_of_readLayout read
  have length : (before.applyLayout document).settings.layout.length = layout.length := by
    simp only [applyLayout, stated, read]
  rw [applied]
  refine ⟨?_, named, ?_⟩
  · simp only [applyLayout, stated, read]
  · rw [warnings_applyLayout stated read, ← length, named.length_eq]

/--
Apply a document with a layout section of valid entries, of any size.  With an invalid number there
is no new layout and no warning.  Otherwise the new layout is warned about exactly if it has fewer
than sixteen host keys, and the warning tells their number.

A warning is never groundless: some key of the keypad has no host key.  But only if no two host keys
stand for the same key, or each key has one, is the warning as it should be, given exactly if a key
has no host key and telling the number of those that have one.  Else it tells too many keys, or it
is missing.
-/
theorem layout_warning_counts_hosts
    (settings : Settings) {document : Document} {entries : Section}
    (stated : document.section? layoutSection = some entries)
    (valid : ∀ entry ∈ entries, (entryKey? entry).isSome) :
    let reading := settings.apply document
    let hosts := (hostNames entries).card
    let keys := targets reading.settings.layout
    (∀ error, RefusesNumber document error →
      reading.result = .error error ∧ reading.warnings = [] ∧
        reading.settings.layout = settings.layout) ∧
    ((∀ error, ¬ RefusesNumber document error) →
      reading.result = .ok () ∧ reading.warnings = incompleteWarning hosts ∧
        (∀ key, key ∈ keys ↔ ∃ name, reading.settings.key? name = some key) ∧
        keys.card ≤ hosts ∧ (keys.card < 16 ↔ LacksKey reading.settings) ∧
        (reading.warnings ≠ [] → LacksKey reading.settings) ∧
        (¬ SharesKey reading.settings → (reading.warnings ≠ [] ↔ LacksKey reading.settings)) ∧
        (reading.warnings = incompleteWarning keys.card ↔
          ¬ (SharesKey reading.settings ∧ LacksKey reading.settings))) := by
  intro reading hosts keys
  constructor
  · intro error refuses
    have silent : reading.warnings = [] := by
      rw [Reading.warnings, notices_apply_of_refusesNumber refuses settings]
      rfl
    rcases apply_of_refusesNumber refuses settings with ⟨result, layout⟩
    exact ⟨result, silent, layout⟩
  · intro accepted
    rcases covers_apply stated valid accepted settings with ⟨succeeded, named, told⟩
    have warned : reading.warnings ≠ [] ↔ hosts < 16 := by
      rw [told, Ne, incompleteWarning_eq_nil_iff, not_le]
    refine ⟨succeeded, told, named.mem_targets_iff, named.card_le, named.card_lt_iff, ?_, ?_, ?_⟩
    · exact fun warning => named.lacksKey (warned.mp warning)
    · exact fun unshared => warned.trans (named.card_lt_iff_of_not_sharesKey unshared)
    · rw [told]
      exact named.incompleteWarning_eq_iff

/-- Two host keys for one key of the keypad. -/
def upTwice : Document :=
  ⟨[("keyboard_layout", [("up", some "2"), ("w", some "0x2")])]⟩

theorem layout_warning_counts_hosts_upTwice :
    let reading := default.apply upTwice
    upTwice.section? layoutSection = some [("up", some "2"), ("w", some "0x2")] ∧
      reading.warnings = incompleteWarning 2 ∧ reading.settings.key? "up" = some 2 ∧
      reading.settings.key? "w" = some 2 ∧ LacksKey reading.settings ∧
      reading.warnings ≠ incompleteWarning (targets reading.settings.layout).card := by
  intro reading
  have stated : upTwice.section? layoutSection = some [("up", some "2"), ("w", some "0x2")] := rfl
  have valid : ∀ entry ∈ [("up", some "2"), ("w", some "0x2")], (entryKey? entry).isSome := by
    decide
  have accepted (error : SettingsError) : ¬ RefusesNumber upTwice error := by
    have rate : readNumber upTwice "emulator" "cycles_per_second" 4294967295 = .ok none := rfl
    have scale : readNumber upTwice "display" "scale" 64 = .ok none := rfl
    simp only [RefusesNumber, rulesNumber_iff, rate, scale]
    rintro (impossible | ⟨_, _, impossible⟩) <;> cases impossible
  have hosts : (hostNames [("up", some "2"), ("w", some "0x2")]).card = 2 := by decide +kernel
  have up : reading.settings.key? "up" = some 2 := by decide +kernel
  have letter : reading.settings.key? "w" = some 2 := by decide +kernel
  have shares : SharesKey reading.settings := ⟨"up", "w", 2, by decide +kernel, up, letter⟩
  rcases (layout_warning_counts_hosts default stated valid).2 accepted with
    ⟨_, told, _, _, _, grounded, _, right⟩
  rw [hosts] at told
  have lacks : LacksKey reading.settings := grounded (by rw [told]; decide)
  exact ⟨stated, told, up, letter, lacks, fun same => right.mp same ⟨shares, lacks⟩⟩

/-- The usual layout, but for the key `F`: its host key stands for `E`, as another does. -/
def withoutF : Document :=
  ⟨[("keyboard_layout", [("x", some "0"), ("1", some "1"), ("2", some "2"), ("3", some "3"),
    ("q", some "4"), ("w", some "5"), ("e", some "6"), ("a", some "7"), ("s", some "8"),
    ("d", some "9"), ("z", some "10"), ("c", some "11"), ("4", some "12"), ("r", some "13"),
    ("f", some "14"), ("v", some "14")])]⟩

/-- A layout without a warning need not cover the keypad: sixteen host keys leave out a key. -/
theorem missing_key_unwarned :
    let reading := default.apply withoutF
    (Document.parse ("[keyboard_layout]\nx = 0\n1 = 1\n2 = 2\n3 = 3\nq = 4\nw = 5\ne = 6\n" ++
        "a = 7\ns = 8\nd = 9\nz = 10\nc = 11\n4 = 12\nr = 13\nf = 14\nv = 14\n")).toOption =
        some withoutF ∧
      reading.result = .ok () ∧ reading.warnings = [] ∧
      (∀ name, reading.settings.key? name ≠ some 15) ∧
      ¬ ∀ (settings : Settings) (document : Document) (entries : Section),
        document.section? layoutSection = some entries →
        (∀ entry ∈ entries, (entryKey? entry).isSome) →
        (settings.apply document).result = .ok () →
        ((settings.apply document).warnings ≠ [] ↔
          LacksKey (settings.apply document).settings) := by
  intro reading
  have succeeded : reading.result = .ok () := by rfl
  have silent : reading.warnings = [] := by decide +kernel
  have absent (name : String) : reading.settings.key? name ≠ some 15 := by
    intro found
    have listed : (15 : Key) ∈ reading.settings.layout.map fun entry => entry.2 :=
      List.mem_map_of_mem (Dictionary.mem_of_find?_eq_some found)
    revert listed
    decide +kernel
  refine ⟨by decide +kernel, succeeded, silent, absent, ?_⟩
  intro warnsIfLacking
  have valid : ∀ entry ∈ withoutF.sectionOrEmpty layoutSection, (entryKey? entry).isSome := by
    decide +kernel
  exact (warnsIfLacking default withoutF _ rfl valid succeeded).mpr ⟨15, absent⟩ silent

end Settings

end ChipEight
