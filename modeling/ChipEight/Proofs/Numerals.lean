import ChipEight.Text
import Mathlib.Data.List.DropRight
import Mathlib.Data.List.Forall2
import Mathlib.Data.Nat.Digits.Defs

/-!
# Numerals and the numbers they write

What a text has to look like to be a numeral, and which number it then writes, said without
reading it: a relation between a text and a number that holds exactly when reading the text gives
that number.  In the same way, trimming is told by what its result looks like.
-/

namespace ChipEight.Text

/-- A text is an inner text with nothing but blanks around it, and the inner text has none at its
ends. -/
structure Trims (text inner : List Char) : Prop where
  around :
    ∃ before after, text = before ++ inner ++ after ∧
      (∀ character ∈ before, isBlank character) ∧ ∀ character ∈ after, isBlank character
  first : ∀ character ∈ inner.head?, ¬ isBlank character
  last : ∀ character ∈ inner.getLast?, ¬ isBlank character

theorem trimEnd_eq (text : List Char) : trimEnd text = text.rdropWhile isBlank :=
  rfl

theorem trimStart_append
    {before : List Char} (blank : ∀ character ∈ before, isBlank character) (text : List Char) :
    trimStart (before ++ text) = trimStart text :=
  List.dropWhile_append_of_pos blank

theorem trimStart_eq_self
    {text : List Char} (first : ∀ character ∈ text.head?, ¬ isBlank character) :
    trimStart text = text := by
  cases text with
  | nil => rfl
  | cons character rest => simp [trimStart, first character rfl]

theorem trimEnd_append
    {after : List Char} (blank : ∀ character ∈ after, isBlank character) (text : List Char) :
    trimEnd (text ++ after) = trimEnd text := by
  have blankReversed : ∀ character ∈ after.reverse, isBlank character := by simpa using blank
  rw [trimEnd, List.reverse_append, trimStart_append blankReversed, trimEnd]

theorem trimEnd_eq_self
    {text : List Char} (last : ∀ character ∈ text.getLast?, ¬ isBlank character) :
    trimEnd text = text := by
  rw [trimEnd, trimStart_eq_self (by simpa using last), List.reverse_reverse]

/-- Trimming gives what is left without blanks on either side: a beginning of the text after its
first blanks, so it starts as that does. -/
theorem trims_trim (text : List Char) : Trims text (trim text) := by
  have kept : trim text <+: trimStart text := List.rdropWhile_prefix _ _
  refine ⟨⟨text.takeWhile isBlank, (trimStart text).rtakeWhile isBlank, ?_, ?_, ?_⟩, ?_, ?_⟩
  · rw [List.append_assoc, trim, trimEnd_eq, List.rdropWhile_append_rtakeWhile, trimStart,
      List.takeWhile_append_dropWhile]
  · exact fun _ member => List.mem_takeWhile_imp member
  · exact fun _ member => List.mem_rtakeWhile_imp member
  · intro character isFirst
    rcases kept with ⟨after, same⟩
    have starts : (trimStart text).head? = some character := by
      rw [← same, List.head?_append, Option.mem_def.mp isFirst, Option.some_or]
    have unblank := List.head?_dropWhile_not isBlank text
    rw [← trimStart, starts] at unblank
    simpa using unblank
  · intro character isLast
    have ending : (trimStart (trimStart text).reverse).head? = some character := by
      rw [← List.getLast?_reverse]
      exact isLast
    have unblank := List.head?_dropWhile_not isBlank (trimStart text).reverse
    rw [← trimStart, ending] at unblank
    simpa using unblank

/-- Only one text is left without blanks on either side. -/
theorem Trims.trim_eq {text inner : List Char} (trims : Trims text inner) : trim text = inner := by
  rcases trims with ⟨⟨before, after, rfl, blankBefore, blankAfter⟩, first, last⟩
  rw [trim, List.append_assoc, trimStart_append blankBefore]
  cases inner with
  | nil =>
      have nothing : trimStart after = [] := List.dropWhile_eq_nil_iff.mpr blankAfter
      rw [List.nil_append, nothing]
      rfl
  | cons character rest =>
      have starts : ∀ other ∈ (character :: rest ++ after).head?, ¬ isBlank other := by
        simpa using first
      rw [trimStart_eq_self starts, trimEnd_append blankAfter, trimEnd_eq_self last]

theorem trim_eq_iff (text inner : List Char) : trim text = inner ↔ Trims text inner :=
  ⟨fun same => same ▸ trims_trim text, Trims.trim_eq⟩

namespace Numeral

/-! ## Digits -/

/-- A character is the digit of a value below the base, in either case. -/
def IsDigit (base : Nat) (character : Char) (value : Nat) : Prop :=
  value < base ∧ (character = value.digitChar ∨ character = value.digitChar.toUpper)

theorem digitValue?_digitChar {value : Nat} (small : value < 16) :
    digitValue? value.digitChar = some value ∧
      digitValue? value.digitChar.toUpper = some value := by
  revert value
  decide

theorem ascii_of_digitValue?
    {character : Char} {value : Nat} (worth : digitValue? character = some value) :
    character.toNat < 128 := by
  have below {last : Char} (ascii : last.toNat < 128) (atMost : character ≤ last) :
      character.toNat < 128 :=
    lt_of_le_of_lt (UInt32.le_iff_toNat_le.mp (Char.le_def.mp atMost)) ascii
  simp only [digitValue?] at worth
  split at worth
  case isTrue decimal => exact below (by decide) decimal.2
  split at worth
  case isTrue lower => exact below (by decide) lower.2
  split at worth
  case isTrue upper => exact below (by decide) upper.2
  cases worth

/-- No other character is worth what a digit below sixteen is worth. -/
theorem eq_digitChar_of_digitValue?
    {character : Char} {value : Nat} (small : value < 16)
    (worth : digitValue? character = some value) :
    character = value.digitChar ∨ character = value.digitChar.toUpper := by
  have ascii : ∀ code < 128, ∀ value < 16, digitValue? (Char.ofNat code) = some value →
      Char.ofNat code = value.digitChar ∨ Char.ofNat code = value.digitChar.toUpper := by
    decide +kernel
  have found := ascii character.toNat (ascii_of_digitValue? worth) value small
  rw [Char.ofNat_toNat] at found
  exact found worth

variable {base : Nat}

/-- The reader of digits agrees with the relation, in bases up to sixteen. -/
theorem digit?_eq_some_iff (atMost : base ≤ 16) (character : Char) (value : Nat) :
    digit? base character = some value ↔ IsDigit base character value := by
  simp only [digit?, Option.filter_eq_some_iff, decide_eq_true_eq, IsDigit]
  constructor
  · rintro ⟨worth, below⟩
    exact ⟨below, eq_digitChar_of_digitValue? (below.trans_le atMost) worth⟩
  · rintro ⟨below, rfl | rfl⟩
    · exact ⟨(digitValue?_digitChar (below.trans_le atMost)).1, below⟩
    · exact ⟨(digitValue?_digitChar (below.trans_le atMost)).2, below⟩

/-! ## Rows of digits -/

/-- A row of digits, of these values and read after digits worth `value`, is worth a number. -/
theorem digitsFrom?_eq_some_iff
    (atMost : base ≤ 16) (value : Nat) (text : List Char) (number : Nat) :
    digitsFrom? base value text = some number ↔
      ∃ values, List.Forall₂ (IsDigit base) text values ∧
        number = values.foldl (fun sum digit => sum * base + digit) value := by
  induction text generalizing value with
  | nil =>
      constructor
      · rintro ⟨⟩
        exact ⟨[], .nil, rfl⟩
      · rintro ⟨_, ⟨⟩, rfl⟩
        rfl
  | cons character rest step =>
      constructor
      · intro read
        rw [digitsFrom?] at read
        split at read
        case h_1 digit worth =>
          rcases (step _).mp read with ⟨values, digits, same⟩
          exact ⟨digit :: values, .cons ((digit?_eq_some_iff atMost _ _).mp worth) digits, same⟩
        case h_2 => cases read
      · rintro ⟨_, digits, same⟩
        cases digits with
        | cons isDigit rest =>
            rw [digitsFrom?, (digit?_eq_some_iff atMost _ _).mpr isDigit]
            exact (step _).mpr ⟨_, rest, same⟩

/-- Reading digit by digit gives the sum of the digits at their places. -/
theorem foldl_eq_ofDigits (values : List Nat) :
    values.foldl (fun sum digit => sum * base + digit) 0 = Nat.ofDigits base values.reverse := by
  rw [Nat.ofDigits_eq_foldr, List.foldr_reverse]
  simp only [Nat.cast_id, mul_comm base, add_comm]

/-- A text writes a number in a base: after an optional plus sign come the digits of the number,
the most significant first, with any zeros before them. -/
def Writes (base : Nat) (text : List Char) (number : Nat) : Prop :=
  ∃ sign digits values,
    text = sign ++ digits ∧ (sign = [] ∨ sign = ['+']) ∧ digits ≠ [] ∧
      List.Forall₂ (IsDigit base) digits values ∧ number = Nat.ofDigits base values.reverse

/-- A text of digits is read as the number that they have at their places. -/
theorem digits?_eq_some_iff (atMost : base ≤ 16) (text : List Char) (number : Nat) :
    digits? base text = some number ↔
      text ≠ [] ∧ ∃ values,
        List.Forall₂ (IsDigit base) text values ∧ number = Nat.ofDigits base values.reverse := by
  cases text with
  | nil => simp [digits?]
  | cons character rest =>
      simp only [digits?, digitsFrom?_eq_some_iff atMost, foldl_eq_ofDigits, ne_eq,
        List.cons_ne_nil, not_false_eq_true, true_and]

/-- A plus sign is no digit, so a row of digits does not start with one. -/
theorem not_isDigit_plus (atMost : base ≤ 16) (value : Nat) : ¬ IsDigit base '+' value := by
  intro isDigit
  have worth := (digit?_eq_some_iff atMost '+' value).mpr isDigit
  simp [digit?, digitValue?] at worth

/-- The reader of numerals agrees with the relation. Without a sign the text does not start with a
plus, as none of its digits is one. -/
theorem value?_eq_some_iff (atMost : base ≤ 16) (text : List Char) (number : Nat) :
    value? base text = some number ↔ Writes base text number := by
  constructor
  · intro read
    rw [value?.eq_def] at read
    split at read
    case h_1 digits =>
      rcases (digits?_eq_some_iff atMost _ _).mp read with ⟨nonempty, values, isDigits, same⟩
      exact ⟨['+'], digits, values, rfl, .inr rfl, nonempty, isDigits, same⟩
    case h_2 =>
      rcases (digits?_eq_some_iff atMost _ _).mp read with ⟨nonempty, values, isDigits, same⟩
      exact ⟨[], text, values, rfl, .inl rfl, nonempty, isDigits, same⟩
  · rintro ⟨sign, digits, values, rfl, rfl | rfl, nonempty, isDigits, same⟩
    · have read := (digits?_eq_some_iff atMost _ _).mpr ⟨nonempty, values, isDigits, same⟩
      rw [List.nil_append, value?.eq_def]
      split
      case h_1 rest =>
        cases isDigits with
        | cons isDigit _ => exact absurd isDigit (not_isDigit_plus atMost _)
      case h_2 => exact read
    · exact (digits?_eq_some_iff atMost _ _).mpr ⟨nonempty, values, isDigits, same⟩

/-! ## What a numeral looks like -/

theorem Writes.unique
    (atMost : base ≤ 16) {text : List Char} {number other : Nat}
    (writes : Writes base text number) (writesOther : Writes base text other) :
    number = other := by
  rw [← value?_eq_some_iff atMost] at writes writesOther
  exact Option.some.inj (writes.symm.trans writesOther)

/-- A row of digits, whatever they are, is worth some number. -/
theorem exists_values {digits : List Char}
    (isDigits : ∀ character ∈ digits, ∃ value, IsDigit base character value) :
    ∃ values, List.Forall₂ (IsDigit base) digits values := by
  induction digits with
  | nil => exact ⟨[], .nil⟩
  | cons character rest step =>
      rcases List.forall_mem_cons.mp isDigits with ⟨⟨value, isDigit⟩, restDigits⟩
      rcases step restDigits with ⟨values, writes⟩
      exact ⟨value :: values, .cons isDigit writes⟩

theorem isDigit_of_forall₂
    {digits : List Char} {values : List Nat}
    (isDigits : List.Forall₂ (IsDigit base) digits values) :
    ∀ character ∈ digits, ∃ value, IsDigit base character value := by
  induction isDigits with
  | nil => exact List.forall_mem_nil _
  | cons isDigit _ step => exact List.forall_mem_cons.mpr ⟨⟨_, isDigit⟩, step⟩

/-- A numeral is not empty and no bare sign, and it has only digits after its first character, which
is a digit or a plus sign. -/
theorem exists_writes_iff (atMost : base ≤ 16) (text : List Char) :
    (∃ number, Writes base text number) ↔
      text ≠ [] ∧ text ≠ ['+'] ∧ '+' ∉ text.tail ∧
        ∀ character ∈ text, character ≠ '+' → ∃ value, IsDigit base character value := by
  constructor
  · rintro ⟨number, sign, digits, values, rfl, signed, nonempty, isDigits, _⟩
    have digitOf := isDigit_of_forall₂ isDigits
    have unsigned : '+' ∉ digits := fun listed =>
      (digitOf _ listed).elim fun value => not_isDigit_plus atMost value
    rcases signed with rfl | rfl
    · refine ⟨nonempty, ?_, fun listed => unsigned (List.mem_of_mem_tail listed), ?_⟩
      · rintro rfl
        exact unsigned List.mem_cons_self
      · exact fun character listed _ => digitOf character listed
    · refine ⟨List.cons_ne_nil _ _, ?_, unsigned, ?_⟩
      · rintro same
        exact nonempty (List.cons.inj same).2
      · intro character listed other
        exact digitOf character ((List.mem_cons.mp listed).resolve_left other)
  · rintro ⟨nonempty, unbare, unsigned, digitOf⟩
    cases text with
    | nil => exact absurd rfl nonempty
    | cons first rest =>
        have restDigits : ∀ character ∈ rest, ∃ value, IsDigit base character value := by
          intro character listed
          refine digitOf character (List.mem_cons_of_mem _ listed) ?_
          rintro rfl
          exact unsigned listed
        by_cases plus : first = '+'
        · subst plus
          rcases exists_values restDigits with ⟨values, isDigits⟩
          have some : rest ≠ [] := fun same => unbare (same ▸ rfl)
          exact ⟨_, ['+'], rest, values, rfl, .inr rfl, some, isDigits, rfl⟩
        · have isDigit := digitOf first List.mem_cons_self plus
          rcases exists_values (List.forall_mem_cons.mpr ⟨isDigit, restDigits⟩) with
            ⟨values, isDigits⟩
          exact ⟨_, [], first :: rest, values, rfl, .inl rfl, nonempty, isDigits, rfl⟩

/-- An ASCII character that is no blank, no minus sign and no `x`. -/
structure Plain (character : Char) : Prop where
  ascii : character.toNat < 128
  unblank : ¬ isBlank character
  noMinus : character ≠ '-'
  noMark : character ≠ 'x' ∧ character ≠ 'X'

theorem IsDigit.plain
    (atMost : base ≤ 16) {character : Char} {value : Nat} (isDigit : IsDigit base character value) :
    Plain character := by
  have plain : ∀ value < 16, [value.digitChar, value.digitChar.toUpper].all fun character =>
      character.toNat < 128 ∧ ¬ isBlank character ∧ character ≠ '-' ∧ character ≠ 'x' ∧
        character ≠ 'X' := by
    decide
  have either : character ∈ [value.digitChar, value.digitChar.toUpper] := by simpa using isDigit.2
  rcases of_decide_eq_true
    (List.all_eq_true.mp (plain value (isDigit.1.trans_le atMost)) character either) with
    ⟨ascii, unblank, noMinus, noMark⟩
  exact ⟨ascii, unblank, noMinus, noMark⟩

/-- A numeral has no blank and no other character that would be trimmed or split. -/
theorem Writes.plain
    (atMost : base ≤ 16) {text : List Char} {number : Nat} (writes : Writes base text number) :
    ∀ character ∈ text, Plain character := by
  intro character listed
  by_cases plus : character = '+'
  · subst plus
    exact ⟨by decide, by decide, by decide, by decide⟩
  · rcases (exists_writes_iff atMost text).mp ⟨number, writes⟩ with ⟨_, _, _, digitOf⟩
    rcases digitOf character listed plus with ⟨value, isDigit⟩
    exact isDigit.plain atMost

/-! ## Numerals with leading zeros -/

theorem forall₂_toDigits (proper : 1 < base) (number : Nat) :
    ∃ values, List.Forall₂ (IsDigit base) (Nat.toDigits base number) values ∧
      number = Nat.ofDigits base values.reverse := by
  induction number using Nat.strongRecOn with
  | ind number step =>
      rw [Nat.toDigits_eq_if proper]
      split
      case isTrue small =>
        exact ⟨[number], .cons ⟨small, .inl rfl⟩ .nil, by simp⟩
      case isFalse large =>
        have shorter : number / base < number :=
          Nat.div_lt_self (Nat.pos_of_ne_zero (by omega)) proper
        rcases step _ shorter with ⟨values, isDigits, same⟩
        have last : IsDigit base (number % base).digitChar (number % base) :=
          ⟨Nat.mod_lt _ (by omega), .inl rfl⟩
        refine ⟨values ++ [number % base], List.rel_append isDigits (.cons last .nil), ?_⟩
        rw [List.reverse_append, List.reverse_singleton, List.singleton_append, Nat.ofDigits_cons,
          ← same]
        exact (Nat.mod_add_div number base).symm

theorem IsDigit.toUpper
    (atMost : base ≤ 16) {character : Char} {value : Nat} (isDigit : IsDigit base character value) :
    IsDigit base character.toUpper value := by
  have idempotent : ∀ value < 16,
      value.digitChar.toUpper.toUpper = value.digitChar.toUpper := by
    decide
  rcases isDigit with ⟨below, rfl | rfl⟩
  · exact ⟨below, .inr rfl⟩
  · exact ⟨below, .inr (idempotent value (below.trans_le atMost))⟩

/-- The digits of a number write it, with any zeros before them and in either case. -/
theorem writes_zeros_toDigits
    (proper : 1 < base) (atMost : base ≤ 16) (zeros number : Nat) {digits : List Char}
    (cased : digits = Nat.toDigits base number ∨
      digits = (Nat.toDigits base number).map Char.toUpper) :
    Writes base (List.replicate zeros '0' ++ digits) number := by
  rcases forall₂_toDigits proper number with ⟨values, isLower, same⟩
  have isDigits : List.Forall₂ (IsDigit base) digits values := by
    rcases cased with rfl | rfl
    · exact isLower
    · exact List.forall₂_map_left_iff.mpr (isLower.imp fun _ _ => IsDigit.toUpper atMost)
  have nonempty : digits ≠ [] := by
    rcases cased with rfl | rfl <;> simp
  have leading :
      List.Forall₂ (IsDigit base) (List.replicate zeros '0') (List.replicate zeros 0) := by
    induction zeros with
    | zero => exact .nil
    | succ zeros step => exact .cons ⟨Nat.zero_lt_of_lt proper, .inl rfl⟩ step
  refine ⟨[], _, _, rfl, .inl rfl, ?_, List.rel_append leading isDigits, ?_⟩
  · exact List.append_ne_nil_of_right_ne_nil _ nonempty
  · rw [List.reverse_append, List.reverse_replicate, Nat.ofDigits_append_replicate_zero, same]

end Numeral

end ChipEight.Text
