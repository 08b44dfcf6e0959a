import ChipEight.Proofs.Numerals
import ChipEight.Settings.Reading

/-!
# The grammar of key indices

A value names a key of the keypad by its number, in base ten or, after the mark `0x` or `0X`, in
base sixteen.  The grammar says which texts do so and what keeps a text from it, and reading accepts
exactly the former and refuses exactly the latter.

The number is read without a bound and checked at the end.  An accumulator of eight bits would do as
well: leading zeros never fill it, and what does not fit into it is no key either.
-/

namespace ChipEight

namespace Text.Numeral

variable {base : Nat}

/-! ## Numbers of eight bits -/

/-- The number as a byte, if it is one. -/
def byte? (number : Nat) : Option UInt8 :=
  if number < 256 then some (UInt8.ofNat number) else none

/-- The value of a row of digits, read after digits worth `value`.  The accumulator is a byte: the
first product or sum that is none ends the reading. -/
def byteFrom? (base : Nat) (value : UInt8) : List Char → Option UInt8
  | [] => some value
  | character :: rest => do
      let shifted ← byte? (value.toNat * base)
      let digit ← digit? base character
      let sum ← byte? (shifted.toNat + digit)
      byteFrom? base sum rest

def byteDigits? (base : Nat) : List Char → Option UInt8
  | [] => none
  | text => byteFrom? base 0 text

def byteValue? (base : Nat) : List Char → Option UInt8
  | '+' :: text => byteDigits? base text
  | text => byteDigits? base text

theorem byte?_eq_some {number : Nat} (fits : number < 256) :
    ∃ byte, byte? number = some byte ∧ byte.toNat = number :=
  ⟨_, if_pos fits, UInt8.toNat_ofNat_of_lt' fits⟩

theorem byte?_eq_none {number : Nat} (large : 256 ≤ number) : byte? number = none :=
  if_neg large.not_gt

/-- Further digits do not make a number smaller. -/
theorem le_of_digitsFrom?
    (positive : 0 < base) {value number : Nat} {text : List Char}
    (read : digitsFrom? base value text = some number) : value ≤ number := by
  induction text generalizing value with
  | nil =>
      cases read
      exact Nat.le_refl _
  | cons character rest step =>
      rw [digitsFrom?] at read
      split at read
      case h_1 digit _ =>
        calc
          value ≤ value * base := Nat.le_mul_of_pos_right value positive
          _ ≤ value * base + digit := Nat.le_add_right _ _
          _ ≤ number := step read
      case h_2 => cases read

theorem byteFrom?_cons_of_fits
    {value sum : UInt8} {character : Char} {digit : Nat}
    (worth : digit? base character = some digit) (same : sum.toNat = value.toNat * base + digit)
    (rest : List Char) :
    byteFrom? base value (character :: rest) = byteFrom? base sum rest := by
  have fits : value.toNat * base + digit < 256 := same ▸ sum.toNat_lt
  rcases byte?_eq_some (Nat.lt_of_le_of_lt (Nat.le_add_right _ _) fits) with
    ⟨shifted, product, shiftedSame⟩
  have added : byte? (shifted.toNat + digit) = some sum := by
    rw [shiftedSame, byte?, if_pos fits, ← same, UInt8.ofNat_toNat]
  simp only [byteFrom?, product, worth, added, Option.bind_eq_bind, Option.bind_some]

/-- A digit after which the number is no byte ends the reading. -/
theorem byteFrom?_cons_of_large
    {value : UInt8} {character : Char} {digit : Nat}
    (worth : digit? base character = some digit) (large : 256 ≤ value.toNat * base + digit)
    (rest : List Char) : byteFrom? base value (character :: rest) = none := by
  rcases Nat.lt_or_ge (value.toNat * base) 256 with small | already
  · rcases byte?_eq_some small with ⟨shifted, product, shiftedSame⟩
    rw [← shiftedSame] at large
    simp only [byteFrom?, product, worth, byte?_eq_none large, Option.bind_eq_bind,
      Option.bind_some, Option.bind_none]
  · simp only [byteFrom?, byte?_eq_none already, Option.bind_eq_bind, Option.bind_none]

/-- Reading into a byte gives the number that is read without a bound, if that is a byte. A number
that has left the bytes does not come back to them with further digits. -/
theorem byteFrom?_eq_some_iff
    (positive : 0 < base) (value : UInt8) (text : List Char) (byte : UInt8) :
    byteFrom? base value text = some byte ↔
      digitsFrom? base value.toNat text = some byte.toNat := by
  induction text generalizing value with
  | nil => rw [byteFrom?, digitsFrom?, Option.some_inj, Option.some_inj, UInt8.toNat_inj]
  | cons character rest step =>
      rw [digitsFrom?]
      cases worth : digit? base character with
      | none =>
          cases shifted : byte? (value.toNat * base) <;> simp [byteFrom?, worth, shifted]
      | some digit =>
          rcases Nat.lt_or_ge (value.toNat * base + digit) 256 with fits | large
          · rcases byte?_eq_some fits with ⟨sum, _, same⟩
            rw [byteFrom?_cons_of_fits worth same, step, same]
          · rw [byteFrom?_cons_of_large worth large]
            refine iff_of_false (Option.some_ne_none byte).symm fun read => ?_
            exact absurd byte.toNat_lt (large.trans (le_of_digitsFrom? positive read)).not_gt

theorem byteDigits?_eq_some_iff (positive : 0 < base) (text : List Char) (byte : UInt8) :
    byteDigits? base text = some byte ↔ digits? base text = some byte.toNat := by
  cases text with
  | nil => simp [byteDigits?, digits?]
  | cons character rest => exact byteFrom?_eq_some_iff positive 0 _ byte

theorem byteValue?_eq_some_iff (positive : 0 < base) (text : List Char) (byte : UInt8) :
    byteValue? base text = some byte ↔ value? base text = some byte.toNat := by
  cases text with
  | nil => exact byteDigits?_eq_some_iff positive [] byte
  | cons first rest =>
      by_cases plus : first = '+'
      · subst plus
        exact byteDigits?_eq_some_iff positive rest byte
      · rw [byteValue?, value?]
        · exact byteDigits?_eq_some_iff positive _ byte
        · simpa using plus
        · simpa using plus

end Text.Numeral

namespace Settings

open Text.Numeral (Writes IsDigit)

/-! ## The numeral of a value -/

/-- A text starts with the mark of base sixteen, and this is the rest of it. -/
def Marked (text rest : List Char) : Prop :=
  text = '0' :: 'x' :: rest ∨ text = '0' :: 'X' :: rest

/-- The part of a text that is to be a numeral, with its base: what comes after the mark of base
sixteen, or without a mark the whole text in base ten. -/
inductive HasNumeral (text : List Char) : Nat → List Char → Prop
  | hexadecimal {rest : List Char} (marked : Marked text rest) : HasNumeral text 16 rest
  | decimal (unmarked : ∀ rest, ¬ Marked text rest) : HasNumeral text 10 text

/-- What keeps a text from being a numeral in the base that writes the number of a key. -/
inductive Faulty (base : Nat) (text : List Char) : Prop
  | empty (nothing : text = [])
  | signOnly (bare : text = ['+'])
  | laterSign (listed : '+' ∈ text.tail)
  | minus (listed : '-' ∈ text)
  | blank {character : Char} (listed : character ∈ text) (blank : Text.isBlank character)
  | secondMark (listed : 'x' ∈ text ∨ 'X' ∈ text)
  | notAscii {character : Char} (listed : character ∈ text) (beyond : 128 ≤ character.toNat)
  | noDigit {character : Char} (listed : character ∈ text) (unsigned : character ≠ '+')
      (worthless : ∀ value, ¬ IsDigit base character value)
  | large {number : Nat} (written : Writes base text number) (atLeast : 16 ≤ number)

variable {value : String} {text numeral : List Char} {base : Nat} {key : Key}

/-- Every text has a base and a numeral, which need not write a number. -/
theorem exists_hasNumeral (text : List Char) : ∃ base numeral, HasNumeral text base numeral := by
  by_cases marked : ∃ rest, Marked text rest
  · rcases marked with ⟨rest, marked⟩
    exact ⟨16, rest, .hexadecimal marked⟩
  · exact ⟨10, text, .decimal (not_exists.mp marked)⟩

theorem HasNumeral.atMost (has : HasNumeral text base numeral) : base ≤ 16 := by
  cases has <;> decide

theorem HasNumeral.proper (has : HasNumeral text base numeral) : 1 < base := by
  cases has <;> decide

/-- Read the numeral of a text. -/
def readNumeral {Value : Type} (reader : Nat → List Char → Option Value) :
    List Char → Option Value
  | '0' :: 'x' :: digits => reader 16 digits
  | '0' :: 'X' :: digits => reader 16 digits
  | text => reader 10 text

/-- The prefix of a text decides how the rest is read, by any reader. -/
theorem readNumeral_eq
    {Value : Type} (reader : Nat → List Char → Option Value) (has : HasNumeral text base numeral) :
    readNumeral reader text = reader base numeral := by
  cases has with
  | hexadecimal marked => rcases marked with rfl | rfl <;> rfl
  | decimal unmarked =>
      rw [readNumeral]
      · exact fun rest same => unmarked rest (.inl same)
      · exact fun rest same => unmarked rest (.inr same)

/-- The key with a number. -/
def keyOf? (number : Nat) : Option Key :=
  if inside : number < 16 then some ⟨number, inside⟩ else none

theorem keyOf?_eq_some_iff (number : Nat) (key : Key) :
    keyOf? number = some key ↔ number = key.val := by
  rw [keyOf?]
  by_cases inside : number < 16
  · simp [inside, Fin.ext_iff]
  · have other : number ≠ key.val := fun same => inside (same ▸ key.isLt)
    simp [inside, other]

/-- Bytes serve as well as numbers without a bound, as only numbers below sixteen are keys. -/
theorem keyIndex?_eq (value : String) :
    keyIndex? value =
      (readNumeral Text.Numeral.value? (Text.trim value.toList)).bind keyOf? := by
  have number : keyNumber? value = readNumeral Text.Numeral.value? (Text.trim value.toList) := by
    rw [keyNumber?]
    rfl
  rw [keyIndex?, ← number]
  cases keyNumber? value <;> rfl

/-- A value is the key whose number its numeral writes. -/
theorem keyIndex?_eq_some_iff
    (trims : Text.Trims value.toList text) (has : HasNumeral text base numeral) :
    keyIndex? value = some key ↔ Writes base numeral key.val := by
  rw [keyIndex?_eq, trims.trim_eq, readNumeral_eq _ has, Option.bind_eq_some_iff]
  simp only [keyOf?_eq_some_iff, exists_eq_right, Text.Numeral.value?_eq_some_iff has.atMost]

/-! ## What is refused -/

/-- A numeral with a fault writes no number that could be a key. -/
theorem Faulty.not_writes
    (faulty : Faulty base text) (atMost : base ≤ 16) {number : Nat} (small : number < 16) :
    ¬ Writes base text number := by
  intro written
  rcases (Text.Numeral.exists_writes_iff atMost text).mp ⟨number, written⟩ with
    ⟨nonempty, unbare, unsigned, digitOf⟩
  have plain := written.plain atMost
  cases faulty with
  | empty nothing => exact nonempty nothing
  | signOnly bare => exact unbare bare
  | laterSign listed => exact unsigned listed
  | minus listed => exact (plain _ listed).noMinus rfl
  | blank listed blank => exact (plain _ listed).unblank blank
  | secondMark listed =>
      rcases listed with lower | upper
      · exact (plain _ lower).noMark.1 rfl
      · exact (plain _ upper).noMark.2 rfl
  | notAscii listed beyond => exact (plain _ listed).ascii.not_ge beyond
  | noDigit listed other worthless => exact (digitOf _ listed other).elim worthless
  | large writtenLarge atLeast =>
      exact (written.unique atMost writtenLarge ▸ small).not_ge atLeast

/-- Whatever does not write the number of a key has one of the faults. -/
theorem faulty_of_not_writes
    (atMost : base ≤ 16) (unwritten : ∀ number < 16, ¬ Writes base text number) :
    Faulty base text := by
  by_cases numeral : ∃ number, Writes base text number
  · rcases numeral with ⟨number, written⟩
    exact .large written (not_lt.mp fun small => unwritten number small written)
  · rw [Text.Numeral.exists_writes_iff atMost] at numeral
    by_cases nothing : text = []
    · exact .empty nothing
    by_cases bare : text = ['+']
    · exact .signOnly bare
    by_cases later : '+' ∈ text.tail
    · exact .laterSign later
    obtain ⟨character, listed, unsigned, worthless⟩ :
        ∃ character ∈ text, character ≠ '+' ∧ ∀ value, ¬ IsDigit base character value := by
      simpa [nothing, bare, later] using numeral
    exact .noDigit listed unsigned worthless

/-- A value is no key exactly if its numeral has one of the faults. -/
theorem keyIndex?_eq_none_iff
    (trims : Text.Trims value.toList text) (has : HasNumeral text base numeral) :
    keyIndex? value = none ↔ Faulty base numeral := by
  rw [Option.eq_none_iff_forall_ne_some]
  constructor
  · intro unread
    refine faulty_of_not_writes has.atMost fun number small written => ?_
    exact unread ⟨number, small⟩ ((keyIndex?_eq_some_iff trims has).mpr written)
  · intro faulty key read
    exact faulty.not_writes has.atMost key.isLt ((keyIndex?_eq_some_iff trims has).mp read)

/-! ## Reading with bytes -/

/-- The key a value names, as `keyIndex?`, read with an accumulator of eight bits. -/
def byteKeyIndex? (value : String) : Option Key :=
  (readNumeral Text.Numeral.byteValue? (Text.trim value.toList)).bind fun byte => keyOf? byte.toNat

/-- A number that is no byte is no key, so nothing is lost by reading it into a byte. -/
theorem byteKeyIndex?_eq_keyIndex? (value : String) : byteKeyIndex? value = keyIndex? value := by
  rcases exists_hasNumeral (Text.trim value.toList) with ⟨base, numeral, has⟩
  have positive : 0 < base := Nat.zero_lt_of_lt has.proper
  refine Option.ext fun key => ?_
  rw [keyIndex?_eq, byteKeyIndex?, readNumeral_eq _ has, readNumeral_eq _ has]
  simp only [Option.bind_eq_some_iff, keyOf?_eq_some_iff, exists_eq_right,
    Text.Numeral.byteValue?_eq_some_iff positive]
  constructor
  · rintro ⟨byte, read, same⟩
    rw [read, same]
  · intro read
    have same : (UInt8.ofNat key.val).toNat = key.val :=
      UInt8.toNat_ofNat_of_lt' (key.isLt.trans (by decide))
    exact ⟨UInt8.ofNat key.val, same.symm ▸ read, same⟩

/-! ## What is read back -/

/-- A text spells a key: its number in base ten, or in base sixteen after the mark and with letters
of either case, with any zeros before the digits. -/
inductive Spells (key : Key) : List Char → Prop
  | decimal (zeros : Nat) : Spells key (List.replicate zeros '0' ++ Nat.toDigits 10 key.val)
  | hexadecimal (zeros : Nat) {text digits : List Char}
      (marked : Marked text (List.replicate zeros '0' ++ digits))
      (cased : digits = Nat.toDigits 16 key.val ∨
        digits = (Nat.toDigits 16 key.val).map Char.toUpper) : Spells key text

/-- Each spelling of a key writes its number in the base of its prefix. -/
theorem Spells.writes {spelling : List Char} (spells : Spells key spelling) :
    ∃ base numeral, HasNumeral spelling base numeral ∧ Writes base numeral key.val := by
  cases spells with
  | decimal zeros =>
      have writes : Writes 10 (List.replicate zeros '0' ++ Nat.toDigits 10 key.val) key.val :=
        Text.Numeral.writes_zeros_toDigits (by decide) (by decide) zeros key.val (.inl rfl)
      refine ⟨10, _, .decimal ?_, writes⟩
      rintro rest (same | same)
      · exact (writes.plain (by decide) 'x' (same ▸ by simp)).noMark.1 rfl
      · exact (writes.plain (by decide) 'X' (same ▸ by simp)).noMark.2 rfl
  | hexadecimal zeros marked cased =>
      exact ⟨16, _, .hexadecimal marked,
        Text.Numeral.writes_zeros_toDigits (by decide) (by decide) zeros key.val cased⟩

theorem HasNumeral.unblank
    (has : HasNumeral text base numeral)
    (unblank : ∀ character ∈ numeral, ¬ Text.isBlank character) :
    ∀ character ∈ text, ¬ Text.isBlank character := by
  cases has with
  | decimal => exact unblank
  | hexadecimal marked =>
      rcases marked with rfl | rfl <;>
        exact List.forall_mem_cons.mpr ⟨by decide, List.forall_mem_cons.mpr ⟨by decide, unblank⟩⟩

/-- A key is read back from each of its spellings, among any blanks. -/
theorem Spells.keyIndex?_eq
    {before spelling after : List Char} (spells : Spells key spelling)
    (around : value.toList = before ++ spelling ++ after)
    (blankBefore : ∀ character ∈ before, Text.isBlank character)
    (blankAfter : ∀ character ∈ after, Text.isBlank character) :
    keyIndex? value = some key := by
  rcases spells.writes with ⟨base, numeral, has, writes⟩
  have unblank :=
    has.unblank fun character listed => (writes.plain has.atMost character listed).unblank
  have trims : Text.Trims value.toList spelling :=
    ⟨⟨before, after, around, blankBefore, blankAfter⟩,
      fun character first => unblank character (List.mem_of_mem_head? first),
      fun character last => unblank character (List.mem_of_mem_getLast? last)⟩
  exact (keyIndex?_eq_some_iff trims has).mpr writes

/--
A value names a key exactly if its text, without the blanks around it, has a numeral that writes the
number of the key: after the mark of base sixteen one in that base, and otherwise one in base ten.
It names none exactly if the numeral is faulty.  Reading the number into a byte, which has to fit at
every digit, comes to the same.  Each key is read back from its number in either base, with any
zeros before the digits and any blanks around it.
-/
theorem key_index_grammar (value : String) :
    (∀ key, keyIndex? value = some key ↔
        ∃ text base numeral, Text.Trims value.toList text ∧ HasNumeral text base numeral ∧
          Writes base numeral key.val) ∧
      (keyIndex? value = none ↔
        ∃ text base numeral, Text.Trims value.toList text ∧ HasNumeral text base numeral ∧
          Faulty base numeral) ∧
      byteKeyIndex? value = keyIndex? value ∧
      ∀ key before spelling after, Spells key spelling →
        value.toList = before ++ spelling ++ after →
        (∀ character ∈ before, Text.isBlank character) →
        (∀ character ∈ after, Text.isBlank character) → keyIndex? value = some key := by
  have trims : Text.Trims value.toList (Text.trim value.toList) := Text.trims_trim _
  rcases exists_hasNumeral (Text.trim value.toList) with ⟨base, numeral, has⟩
  refine ⟨fun key => ⟨?_, ?_⟩, ⟨?_, ?_⟩, byteKeyIndex?_eq_keyIndex? value, ?_⟩
  · intro read
    exact ⟨_, base, numeral, trims, has, (keyIndex?_eq_some_iff trims has).mp read⟩
  · rintro ⟨text, base, numeral, trims, has, writes⟩
    exact (keyIndex?_eq_some_iff trims has).mpr writes
  · intro unread
    exact ⟨_, base, numeral, trims, has, (keyIndex?_eq_none_iff trims has).mp unread⟩
  · rintro ⟨text, base, numeral, trims, has, faulty⟩
    exact (keyIndex?_eq_none_iff trims has).mpr faulty
  · intro key before spelling after spells around blankBefore blankAfter
    exact spells.keyIndex?_eq around blankBefore blankAfter

/-- A key with blanks, zeros and a capital letter is read back.  A second mark is refused, and so is
a number that a byte would wrap around to zero. -/
theorem key_index_grammar_padded :
    Spells 11 ['0', 'X', '0', '0', 'B'] ∧ keyIndex? "\u3000\t0X00B\n" = some 11 ∧
      keyIndex? "0x0x5" = none ∧ keyIndex? "256" = none := by
  have spells : Spells 11 ['0', 'X', '0', '0', 'B'] := .hexadecimal 2 (.inr rfl) (.inr rfl)
  have second : Text.Trims "0x0x5".toList "0x0x5".toList :=
    (Text.trim_eq_iff _ _).mp (by decide)
  have large : Text.Trims "256".toList "256".toList :=
    (Text.trim_eq_iff _ _).mp (by decide)
  have unmarked : ∀ rest, ¬ Marked "256".toList rest := by
    rintro rest (same | same) <;> cases same
  have written : Writes 10 "256".toList 256 :=
    (Text.Numeral.value?_eq_some_iff (by decide) _ _).mp (by decide)
  refine ⟨spells, ?_, ?_, ?_⟩
  · rcases key_index_grammar "\u3000\t0X00B\n" with ⟨_, _, _, readBack⟩
    exact readBack 11 ['\u3000', '\t'] _ ['\n'] spells rfl (List.all_eq_true.mp (by decide))
      (List.all_eq_true.mp (by decide))
  · rcases key_index_grammar "0x0x5" with ⟨_, refused, _⟩
    exact refused.mpr ⟨_, _, _, second, .hexadecimal (.inl rfl), .secondMark (.inl (by decide))⟩
  · rcases key_index_grammar "256" with ⟨_, refused, _⟩
    exact refused.mpr ⟨_, _, _, large, .decimal unmarked, .large written (by decide)⟩

end Settings

end ChipEight
