import ChipEight.Instruction
import Mathlib.Data.List.Nodup

/-!
# How instructions are encoded

The encodings of the instructions as a table of patterns.  A pattern has four places, one for each
digit of a word; a capital hexadecimal digit in it stands for itself and any other character for
every digit.  A word encodes an instruction exactly when it matches the pattern of a row, and then
the row says which one: the table and the decoder agree on all words.

An instruction knows its pattern, too, so no instruction has two rows.  A word that fits a pattern
asks for the instruction of that pattern whose operands are the fields of the word, which is how
`Word.matches_iff` is used.
-/

namespace ChipEight

/-- The digit that a character of a pattern stands for, if it does not stand for every digit. -/
def placeDigit? (place : Char) : Option Nat :=
  if '0' ≤ place ∧ place ≤ '9' then some (place.toNat - '0'.toNat)
  else if 'A' ≤ place ∧ place ≤ 'F' then some (place.toNat - 'A'.toNat + 10)
  else none

/-- Whether a digit may stand at a place of a pattern. -/
def Fits (place : Char) (digit : Nibble) : Prop :=
  match placeDigit? place with
  | some number => digit.val = number
  | none => True

instance (place : Char) (digit : Nibble) : Decidable (Fits place digit) :=
  match number : placeDigit? place with
  | some expected => decidable_of_iff (digit.val = expected) (by simp [Fits, number])
  | none => .isTrue (by simp [Fits, number])

/-- The operands of an instruction are the fields of a word. -/
def Instruction.OperandsFrom (word : Word) : Instruction → Prop
  | .clearScreen | .ret => True
  | .jump target | .call target | .setIndex target | .jumpOffset target => target = word.nnn
  | .skipIf (.byteEqual x byte) | .skipIf (.byteDifferent x byte)
  | .setByte x byte | .addByte x byte | .random x byte => x = word.x ∧ byte = word.nn
  | .skipIf (.registersEqual x y) | .skipIf (.registersDifferent x y)
  | .arithmetic _ x y => x = word.x ∧ y = word.y
  | .draw x y height => x = word.x ∧ y = word.y ∧ height = word.n
  | .skipIf (.keyDown x) | .skipIf (.keyUp x) | .readDelay x | .waitKey x | .setDelay x
  | .setSound x | .addIndex x | .pointGlyph x | .storeDecimal x | .storeRegisters x
  | .loadRegisters x => x = word.x

/-- A row of the table of encodings: a pattern and what a word that matches it asks for. -/
structure Encoding where
  pattern : String
  instruction : Word → Instruction

/-- The words whose first digit is 0. -/
def systemEncodings : List Encoding :=
  [⟨"00E0", fun _ => .clearScreen⟩,
    ⟨"00EE", fun _ => .ret⟩]

/-- The words that their first digit decides, if it does not need the last one to be 0. -/
def plainEncodings : List Encoding :=
  [⟨"1nnn", fun word => .jump word.nnn⟩,
    ⟨"2nnn", fun word => .call word.nnn⟩,
    ⟨"3xnn", fun word => .skipIf (.byteEqual word.x word.nn)⟩,
    ⟨"4xnn", fun word => .skipIf (.byteDifferent word.x word.nn)⟩,
    ⟨"5xy0", fun word => .skipIf (.registersEqual word.x word.y)⟩,
    ⟨"6xnn", fun word => .setByte word.x word.nn⟩,
    ⟨"7xnn", fun word => .addByte word.x word.nn⟩,
    ⟨"9xy0", fun word => .skipIf (.registersDifferent word.x word.y)⟩,
    ⟨"Annn", fun word => .setIndex word.nnn⟩,
    ⟨"Bnnn", fun word => .jumpOffset word.nnn⟩,
    ⟨"Cxnn", fun word => .random word.x word.nn⟩,
    ⟨"Dxyn", fun word => .draw word.x word.y word.n⟩]

/-- The words whose first digit is 8. -/
def arithmeticEncodings : List Encoding :=
  [⟨"8xy0", fun word => .arithmetic .copy word.x word.y⟩,
    ⟨"8xy1", fun word => .arithmetic .or word.x word.y⟩,
    ⟨"8xy2", fun word => .arithmetic .and word.x word.y⟩,
    ⟨"8xy3", fun word => .arithmetic .xor word.x word.y⟩,
    ⟨"8xy4", fun word => .arithmetic .add word.x word.y⟩,
    ⟨"8xy5", fun word => .arithmetic .subtract word.x word.y⟩,
    ⟨"8xy6", fun word => .arithmetic .shiftRight word.x word.y⟩,
    ⟨"8xy7", fun word => .arithmetic .subtractFrom word.x word.y⟩,
    ⟨"8xyE", fun word => .arithmetic .shiftLeft word.x word.y⟩]

/-- The words whose first digit is E. -/
def keyEncodings : List Encoding :=
  [⟨"Ex9E", fun word => .skipIf (.keyDown word.x)⟩,
    ⟨"ExA1", fun word => .skipIf (.keyUp word.x)⟩]

/-- The words whose first digit is F. -/
def deviceEncodings : List Encoding :=
  [⟨"Fx07", fun word => .readDelay word.x⟩,
    ⟨"Fx0A", fun word => .waitKey word.x⟩,
    ⟨"Fx15", fun word => .setDelay word.x⟩,
    ⟨"Fx18", fun word => .setSound word.x⟩,
    ⟨"Fx1E", fun word => .addIndex word.x⟩,
    ⟨"Fx29", fun word => .pointGlyph word.x⟩,
    ⟨"Fx33", fun word => .storeDecimal word.x⟩,
    ⟨"Fx55", fun word => .storeRegisters word.x⟩,
    ⟨"Fx65", fun word => .loadRegisters word.x⟩]

/-- The encodings of all instructions. -/
def encodings : List Encoding :=
  systemEncodings ++ plainEncodings ++ arithmeticEncodings ++ keyEncodings ++ deviceEncodings

/-- The pattern of the words that ask for an operation. -/
def Arithmetic.pattern : Arithmetic → String
  | .copy => "8xy0"
  | .or => "8xy1"
  | .and => "8xy2"
  | .xor => "8xy3"
  | .add => "8xy4"
  | .subtract => "8xy5"
  | .shiftRight => "8xy6"
  | .subtractFrom => "8xy7"
  | .shiftLeft => "8xyE"

/-- The pattern of the words that ask for an instruction. -/
def Instruction.pattern : Instruction → String
  | .clearScreen => "00E0"
  | .ret => "00EE"
  | .jump _ => "1nnn"
  | .call _ => "2nnn"
  | .skipIf (.byteEqual _ _) => "3xnn"
  | .skipIf (.byteDifferent _ _) => "4xnn"
  | .skipIf (.registersEqual _ _) => "5xy0"
  | .skipIf (.registersDifferent _ _) => "9xy0"
  | .skipIf (.keyDown _) => "Ex9E"
  | .skipIf (.keyUp _) => "ExA1"
  | .setByte _ _ => "6xnn"
  | .addByte _ _ => "7xnn"
  | .arithmetic operation _ _ => operation.pattern
  | .setIndex _ => "Annn"
  | .jumpOffset _ => "Bnnn"
  | .random _ _ => "Cxnn"
  | .draw _ _ _ => "Dxyn"
  | .readDelay _ => "Fx07"
  | .waitKey _ => "Fx0A"
  | .setDelay _ => "Fx15"
  | .setSound _ => "Fx18"
  | .addIndex _ => "Fx1E"
  | .pointGlyph _ => "Fx29"
  | .storeDecimal _ => "Fx33"
  | .storeRegisters _ => "Fx55"
  | .loadRegisters _ => "Fx65"

namespace Word

/-- The four digits of a word, from the left. -/
def digits (word : Word) : List Nibble :=
  [word.category, word.x, word.y, word.n]

/-- Each digit of the word may stand at its place of the pattern. -/
def Matches (word : Word) (pattern : String) : Prop :=
  List.Forall₂ Fits pattern.toList word.digits

instance (word : Word) (pattern : String) : Decidable (word.Matches pattern) :=
  inferInstanceAs (Decidable (List.Forall₂ Fits pattern.toList word.digits))

/-- Some of the rows has a pattern that the word matches and the instruction it asks for. -/
def Listed (word : Word) (rows : List Encoding) (instruction : Instruction) : Prop :=
  ∃ encoding ∈ rows, word.Matches encoding.pattern ∧ encoding.instruction word = instruction

/-! ## From the decoder to the table -/

variable {word : Word} {instruction : Instruction}

theorem listed_of_systemInstruction?
    (category : word.category.val = 0) (decoded : word.systemInstruction? = some instruction) :
    word.Listed systemEncodings instruction := by
  unfold systemInstruction? at decoded
  split at decoded <;>
    simp_all [Listed, systemEncodings, Matches, digits, Fits, placeDigit?, val_x_eq, val_y_eq,
      val_n_eq, toNat_nn_eq]

theorem listed_of_ofDigit?
    (category : word.category.val = 8)
    (decoded : (Arithmetic.ofDigit? word.n).map (.arithmetic · word.x word.y) =
      some instruction) :
    word.Listed arithmeticEncodings instruction := by
  unfold Arithmetic.ofDigit? at decoded
  split at decoded <;>
    simp_all [Listed, arithmeticEncodings, Matches, digits, Fits, placeDigit?]

theorem listed_of_keyInstruction?
    (category : word.category.val = 14) (decoded : word.keyInstruction? = some instruction) :
    word.Listed keyEncodings instruction := by
  unfold keyInstruction? at decoded
  split at decoded <;>
    simp_all [Listed, keyEncodings, Matches, digits, Fits, placeDigit?, val_y_eq, val_n_eq]

theorem listed_of_deviceInstruction?
    (category : word.category.val = 15) (decoded : word.deviceInstruction? = some instruction) :
    word.Listed deviceEncodings instruction := by
  unfold deviceInstruction? at decoded
  split at decoded <;>
    simp_all [Listed, deviceEncodings, Matches, digits, Fits, placeDigit?, val_y_eq, val_n_eq]

theorem Listed.of_subset
    {rows more : List Encoding} (included : ∀ encoding ∈ rows, encoding ∈ more)
    (listed : word.Listed rows instruction) : word.Listed more instruction := by
  rcases listed with ⟨encoding, member, rest⟩
  exact ⟨encoding, included encoding member, rest⟩

/-- A decoded instruction stands in a row that the word matches. -/
theorem listed_of_instruction? (decoded : word.instruction? = some instruction) :
    word.Listed encodings instruction := by
  have plain (listed : word.Listed plainEncodings instruction) :
      word.Listed encodings instruction :=
    listed.of_subset (by simp +contextual [encodings])
  unfold instruction? at decoded
  split at decoded
  case h_1 category =>
    exact (listed_of_systemInstruction? category decoded).of_subset
      (by simp +contextual [encodings])
  case h_9 category =>
    exact (listed_of_ofDigit? category decoded).of_subset
      (by simp +contextual [encodings])
  case h_15 category =>
    exact (listed_of_keyInstruction? category decoded).of_subset
      (by simp +contextual [encodings])
  case h_16 =>
    have category : word.category.val = 15 := by
      have bound : word.category.val < 16 := Fin.isLt _
      grind
    exact (listed_of_deviceInstruction? category decoded).of_subset
      (by simp +contextual [encodings])
  all_goals
    apply plain
    simp_all [Listed, plainEncodings, Matches, digits, Fits, placeDigit?]

/-! ## From the table to the decoder -/

/-- A word that matches a row is decoded as the row says. -/
theorem instruction?_of_matches (word : Word) :
    ∀ encoding ∈ encodings, word.Matches encoding.pattern →
      word.instruction? = some (encoding.instruction word) := by
  have low : word.nn.toNat = 16 * word.y.val + word.n.val := by
    have high := val_y_eq word
    have last := val_n_eq word
    omega
  have address : word.nnn.val = 256 * word.x.val + word.nn.toNat := by
    have high := val_x_eq word
    have last := toNat_nn_eq word
    omega
  simp +contextual [encodings, systemEncodings, plainEncodings, arithmeticEncodings, keyEncodings,
    deviceEncodings, or_imp, Matches, digits, Fits, placeDigit?, instruction?,
    systemInstruction?, keyInstruction?, deviceInstruction?, Arithmetic.ofDigit?, low, address]

/-- What a row asks for has the pattern of the row. -/
theorem pattern_instruction (word : Word) :
    ∀ encoding ∈ encodings, (encoding.instruction word).pattern = encoding.pattern := by
  simp [encodings, systemEncodings, plainEncodings, arithmeticEncodings, keyEncodings,
    deviceEncodings, Instruction.pattern, Arithmetic.pattern]

/-- No two rows have the same pattern. -/
theorem nodup_patterns : (encodings.map Encoding.pattern).Nodup := by
  decide

/-- No two rows ask for the same instruction, because an instruction has one pattern. -/
theorem encoding_unique
    (word : Word) {first second : Encoding}
    (firstMember : first ∈ encodings) (secondMember : second ∈ encodings)
    (same : first.instruction word = second.instruction word) : first = second := by
  have patterns : first.pattern = second.pattern := by
    rw [← pattern_instruction word first firstMember, same,
      pattern_instruction word second secondMember]
  exact List.inj_on_of_nodup_map nodup_patterns firstMember secondMember patterns

/-- A word matches a row exactly when it is decoded as that row says. -/
theorem matches_encoding_iff
    (word : Word) (encoding : Encoding) (member : encoding ∈ encodings) :
    word.Matches encoding.pattern ↔ word.instruction? = some (encoding.instruction word) := by
  constructor
  · exact instruction?_of_matches word encoding member
  · intro decoded
    rcases listed_of_instruction? decoded with ⟨other, otherMember, fits, same⟩
    rw [← encoding_unique word otherMember member same]
    exact fits

/-- A word is refused exactly when it matches no row. -/
theorem instruction?_eq_none_iff (word : Word) :
    word.instruction? = none ↔ ∀ encoding ∈ encodings, ¬ word.Matches encoding.pattern := by
  constructor
  · intro refused encoding member fits
    rw [instruction?_of_matches word encoding member fits] at refused
    cases refused
  · intro unlisted
    cases decoded : word.instruction? with
    | none => rfl
    | some instruction =>
        rcases listed_of_instruction? decoded with ⟨encoding, member, fits, _⟩
        exact absurd fits (unlisted encoding member)

/-- The operands of a decoded instruction are the fields of its word. -/
theorem operandsFrom_of_instruction? (decoded : word.instruction? = some instruction) :
    instruction.OperandsFrom word := by
  rcases listed_of_instruction? decoded with ⟨encoding, member, _, rfl⟩
  revert encoding
  simp [encodings, systemEncodings, plainEncodings, arithmeticEncodings, keyEncodings,
    deviceEncodings, Instruction.OperandsFrom]

/-! ## The pattern of an instruction -/

/-- A word fits the pattern of its instruction. -/
theorem matches_pattern (decoded : word.instruction? = some instruction) :
    word.Matches instruction.pattern := by
  rcases listed_of_instruction? decoded with ⟨encoding, member, fits, rfl⟩
  rwa [pattern_instruction word encoding member]

/-- Of the patterns in the table a word fits no other one. -/
theorem matches_iff_pattern
    (decoded : word.instruction? = some instruction) {pattern : String}
    (listed : pattern ∈ encodings.map Encoding.pattern) :
    word.Matches pattern ↔ instruction.pattern = pattern := by
  rcases List.mem_map.mp listed with ⟨encoding, member, rfl⟩
  constructor
  · intro fits
    have same := (instruction?_of_matches word encoding member fits).symm.trans decoded
    rw [← Option.some.inj same, pattern_instruction word encoding member]
  · intro same
    rw [← same]
    exact matches_pattern decoded

/-- Every instruction whose operands are the fields of the word has a row for the word. -/
theorem exists_encoding (operands : instruction.OperandsFrom word) :
    ∃ encoding ∈ encodings, encoding.pattern = instruction.pattern ∧
      encoding.instruction word = instruction := by
  cases instruction with
  | skipIf condition =>
      cases condition <;>
        simp_all [encodings, systemEncodings, plainEncodings, arithmeticEncodings, keyEncodings,
          deviceEncodings, Instruction.pattern, Instruction.OperandsFrom]
  | arithmetic operation x y =>
      cases operation <;>
        simp_all [encodings, systemEncodings, plainEncodings, arithmeticEncodings, keyEncodings,
          deviceEncodings, Instruction.pattern, Arithmetic.pattern, Instruction.OperandsFrom]
  | _ =>
      simp_all [encodings, systemEncodings, plainEncodings, arithmeticEncodings, keyEncodings,
        deviceEncodings, Instruction.pattern, Instruction.OperandsFrom]

/-- A word encodes an instruction with its own fields exactly if it fits the pattern. -/
theorem matches_iff
    (word : Word) (pattern : String) (instruction : Instruction)
    (operands : instruction.OperandsFrom word := by trivial)
    (same : instruction.pattern = pattern := by rfl) :
    word.Matches pattern ↔ word.instruction? = some instruction := by
  rcases exists_encoding operands with ⟨encoding, member, listed, asks⟩
  rw [← same, ← listed, word.matches_encoding_iff encoding member, asks]

end Word

end ChipEight
