import ChipEight.Notice
import ChipEight.Proofs.Numerals

/-!
# Reading the records of a log

A log shows of a notice its level and its text, and nothing else.  The text is parted at its spaces,
and three kinds of lines are read: `call T from P` and `return from Q to P`, with addresses in
hexadecimal digits after `0x`, and `P: W`, with an address and the digits of a word.

What the notices of these kinds say is read back from their texts, and the other notices at the
same level are not taken for them.  So a reader can follow the calls and the returns from the
records alone, starting anew at the record of a reset.
-/

namespace ChipEight

/-- What a log shows of a notice. -/
structure Record where
  level : Level
  message : String
deriving DecidableEq

/-- The record of a notice. -/
def Notice.record (notice : Notice) : Record :=
  ⟨notice.level, notice.message⟩

/-- The records of notices, in order. -/
def Notice.records (notices : List Notice) : List Record :=
  notices.map Notice.record

theorem Notice.records_append (first second : List Notice) :
    records (first ++ second) = records first ++ records second :=
  List.map_append

namespace Record

/-! ## The parts of a text -/

/-- The words of a record, which its spaces part. -/
def words (record : Record) : List String :=
  (record.message.toList.splitOn ' ').map String.ofList

/-- The sixteen bits that hexadecimal digits write. -/
def bits? (digits : List Char) : Option UInt16 :=
  (Text.Numeral.value? 16 digits).bind fun number =>
    if number < 65536 then some (UInt16.ofNat number) else none

/-- The address that a text writes after `0x`. -/
def addressOf? : List Char → Option UInt16
  | '0' :: 'x' :: digits => bits? digits
  | _ => none

/-- The target `T` and the place `P` of a call that a record `call T from P` tells. -/
def call? (record : Record) : Option (UInt16 × UInt16) :=
  match record.words with
  | ["call", target, "from", pc] => do
      return (← addressOf? target.toList, ← addressOf? pc.toList)
  | _ => none

/-- The place `Q` of a return and the call `P` it goes back to, told by `return from Q to P`. -/
def return? (record : Record) : Option (UInt16 × UInt16) :=
  match record.words with
  | ["return", "from", pc, "to", caller] => do
      return (← addressOf? pc.toList, ← addressOf? caller.toList)
  | _ => none

/-- The address `P` and the word `W` there, told by a record `P: W`. -/
def fetch? (record : Record) : Option (UInt16 × Word) :=
  match record.message.toList.splitOn ':' with
  | [pc, ' ' :: word] => do return (← addressOf? pc, ⟨← bits? word⟩)
  | _ => none

/-! ## Reading numerals back -/

/-- Capital digits with zeros before them write their number. -/
theorem writes_upper (width number : Nat) :
    Text.Numeral.Writes 16 (Text.Hex.upper width number) number := by
  have padded : Text.Hex.upper width number =
      List.replicate (width - (Nat.toDigits 16 number).length) '0' ++
        (Nat.toDigits 16 number).map Char.toUpper := by
    simp [Text.Hex.upper, Text.Hex.lower, List.leftpad]
  rw [padded]
  exact Text.Numeral.writes_zeros_toDigits (by decide) (by decide) _ number (.inr rfl)

/-- A character that is no digit does not occur among capital digits. -/
theorem not_mem_upper
    {mark : Char} (noDigit : Text.Numeral.digit? 16 mark = none) (noSign : mark ≠ '+')
    (width number : Nat) : mark ∉ Text.Hex.upper width number := by
  intro listed
  rcases (Text.Numeral.exists_writes_iff (by decide) _).mp ⟨number, writes_upper width number⟩ with
    ⟨_, _, _, digitOf⟩
  rcases digitOf mark listed noSign with ⟨value, isDigit⟩
  rw [← Text.Numeral.digit?_eq_some_iff (by decide), noDigit] at isDigit
  cases isDigit

/-- The digits of sixteen bits are read back. -/
@[simp]
theorem bits?_upper (width : Nat) (bits : UInt16) :
    bits? (Text.Hex.upper width bits.toNat) = some bits := by
  have read := (Text.Numeral.value?_eq_some_iff (by decide) _ _).mpr (writes_upper width bits.toNat)
  rw [bits?, read, Option.bind_some, if_pos bits.toNat_lt, UInt16.ofNat_toNat]

/-- The text of an address is read back. -/
@[simp]
theorem addressOf?_address (address : UInt16) :
    addressOf? (Text.Hex.address address).toList = some address := by
  simp [Text.Hex.address, addressOf?]

theorem space_not_mem_upper (width number : Nat) : ' ' ∉ Text.Hex.upper width number :=
  not_mem_upper (by decide) (by decide) width number

theorem space_not_mem_address (address : UInt16) : ' ' ∉ (Text.Hex.address address).toList := by
  simp [Text.Hex.address, space_not_mem_upper]

/-- An address has no colon, so what stands before the first one can be read back. -/
theorem colon_not_mem_address (address : UInt16) : ':' ∉ (Text.Hex.address address).toList := by
  have digits : ':' ∉ Text.Hex.upper 3 address.toNat :=
    not_mem_upper (by decide) (by decide) 3 address.toNat
  simp [Text.Hex.address, digits]

/-! ## Reading records back -/

/-- A text that puts words together with single spaces has these words. -/
theorem words_eq_of_intercalate
    {record : Record} {parts : List String}
    (spaced : record.message.toList = [' '].intercalate (parts.map String.toList))
    (unspaced : ∀ word ∈ parts, ' ' ∉ word.toList) (nonempty : parts ≠ []) :
    record.words = parts := by
  have wordsUnspaced : ∀ word ∈ parts.map String.toList, ' ' ∉ word := by simpa using unspaced
  rw [words, spaced, List.splitOn_intercalate ' ' wordsUnspaced (by simpa using nonempty),
    List.map_map]
  simp

theorem words_called (target pc : UInt16) :
    (Notice.called target pc).record.words =
      ["call", Text.Hex.address target, "from", Text.Hex.address pc] := by
  have text : (Notice.called target pc).record.message =
      "call " ++ Text.Hex.address target ++ " from " ++ Text.Hex.address pc := rfl
  apply words_eq_of_intercalate
  · simp [text, List.intercalate]
  · simp [space_not_mem_address]
  · simp

theorem words_returned (pc caller : UInt16) :
    (Notice.returned pc caller).record.words =
      ["return", "from", Text.Hex.address pc, "to", Text.Hex.address caller] := by
  have text : (Notice.returned pc caller).record.message =
      "return from " ++ Text.Hex.address pc ++ " to " ++ Text.Hex.address caller := rfl
  apply words_eq_of_intercalate
  · simp [text, List.intercalate]
  · simp [space_not_mem_address]
  · simp

theorem words_waitEnded (key : Key) (pc : UInt16) :
    (Notice.waitEnded key pc).record.words =
      ["key", Notice.keyDigit key, "ended", "wait", "at", Text.Hex.address pc] := by
  have text : (Notice.waitEnded key pc).record.message =
      "key " ++ Notice.keyDigit key ++ " ended wait at " ++ Text.Hex.address pc := rfl
  apply words_eq_of_intercalate
  · simp [text, List.intercalate]
  · simp [space_not_mem_address, Notice.keyDigit, space_not_mem_upper]
  · simp

/-- A call is read back, and it is not taken for a return. -/
theorem read_called (target pc : UInt16) :
    (Notice.called target pc).record.call? = some (target, pc) ∧
      (Notice.called target pc).record.return? = none := by
  simp [call?, return?, words_called]

/-- A return is read back, and it is not taken for a call. -/
theorem read_returned (pc caller : UInt16) :
    (Notice.returned pc caller).record.call? = none ∧
      (Notice.returned pc caller).record.return? = some (pc, caller) := by
  simp [call?, return?, words_returned]

/-- The end of a wait is taken for neither. -/
theorem read_waitEnded (key : Key) (pc : UInt16) :
    (Notice.waitEnded key pc).record.call? = none ∧
      (Notice.waitEnded key pc).record.return? = none := by
  simp [call?, return?, words_waitEnded]

/-- The word that was fetched is read back, with its address. -/
theorem read_fetched (pc : UInt16) (word : Word) :
    (Notice.fetched pc word).record.fetch? = some (pc, word) := by
  have text : (Notice.fetched pc word).record.message =
      Text.Hex.address pc ++ ": " ++ word.text := rfl
  have spaced : (Notice.fetched pc word).record.message.toList =
      [':'].intercalate [(Text.Hex.address pc).toList, ' ' :: word.text.toList] := by
    simp [text, List.intercalate]
  have uncoloned : ':' ∉ Text.Hex.upper 4 word.bits.toNat :=
    not_mem_upper (by decide) (by decide) 4 word.bits.toNat
  have parts : ∀ part ∈ [(Text.Hex.address pc).toList, ' ' :: word.text.toList], ':' ∉ part := by
    simp [colon_not_mem_address, Word.text, uncoloned]
  rw [fetch?, spaced, List.splitOn_intercalate ':' parts (by simp)]
  simp [Word.text]

/-! ## Following a log -/

/-- What a record makes of a reader's list of pending calls, unless it contradicts the list: a call
is added at the end, if the list has fewer than sixteen entries, and a return strikes out the last
entry, if it is the call that the record names. -/
def follow (entries : List UInt16) (record : Record) : Option (List UInt16) :=
  match record.call?, record.return? with
  | some (_, pc), _ => if entries.length < 16 then some (entries ++ [pc]) else none
  | none, some (_, caller) =>
      if entries.getLast? = some caller then some entries.dropLast else none
  | none, none => some entries

/-- The records of a level. -/
def ofLevel (level : Level) (log : List Record) : List Record :=
  log.filter fun record => record.level = level

/-- The record of a reset. -/
def reset : Record :=
  ⟨.debug, "interpreter reset"⟩

/-- The records that follow the last reset. -/
def sinceReset (log : List Record) : List Record :=
  log.rtakeWhile fun record => record ≠ reset

/-- The list of a reader of the debug records since the last reset, if none contradicts it. -/
def replay (log : List Record) : Option (List UInt16) :=
  (ofLevel .debug (sinceReset log)).foldlM follow []

theorem follow_called (entries : List UInt16) (target pc : UInt16) :
    follow entries (Notice.called target pc).record =
      if entries.length < 16 then some (entries ++ [pc]) else none := by
  rw [follow, (read_called target pc).1]

theorem follow_returned (entries : List UInt16) (pc caller : UInt16) :
    follow entries (Notice.returned pc caller).record =
      if entries.getLast? = some caller then some entries.dropLast else none := by
  rw [follow, (read_returned pc caller).1, (read_returned pc caller).2]

theorem follow_waitEnded (entries : List UInt16) (key : Key) (pc : UInt16) :
    follow entries (Notice.waitEnded key pc).record = some entries := by
  rw [follow, (read_waitEnded key pc).1, (read_waitEnded key pc).2]

/-- The records of a level come in the order of the log. -/
theorem ofLevel_append (level : Level) (first second : List Record) :
    ofLevel level (first ++ second) = ofLevel level first ++ ofLevel level second :=
  List.filter_append ..

/-- A record of another level is left out. -/
theorem ofLevel_singleton_of_ne {level : Level} {record : Record} (other : record.level ≠ level) :
    ofLevel level [record] = [] :=
  List.filter_cons_of_neg (by simpa using other)

/-- A notice at another level than that of a reset is another one. -/
theorem reset_not_mem_of_level
    {notice : Notice} (level : Level) (told : notice.level = level) (other : level ≠ .debug) :
    reset ∉ Notice.records [notice] := by
  intro listed
  have same : reset = notice.record := List.mem_singleton.mp listed
  exact other (told.symm.trans (congrArg Record.level same.symm))

/-- A notice with more words than that of a reset is another one. -/
theorem reset_not_mem_of_length
    {notice : Notice} (longer : 2 < notice.record.words.length) :
    reset ∉ Notice.records [notice] := by
  have words : reset.words = ["interpreter", "reset"] := by
    apply words_eq_of_intercalate
    · rfl
    · decide
    · simp
  intro listed
  have same : reset = notice.record := List.mem_singleton.mp listed
  rw [← same, words] at longer
  cases longer.not_ge le_rfl

/-- Without a reset among them, more records are read after those since the last reset. -/
theorem sinceReset_append
    {records : List Record} (noReset : reset ∉ records) (log : List Record) :
    sinceReset (log ++ records) = sinceReset log ++ records := by
  have all : ∀ record ∈ records.reverse, decide (record ≠ reset) = true := by
    intro record member
    rw [decide_eq_true_iff]
    rintro rfl
    exact noReset (List.mem_reverse.mp member)
  rw [sinceReset, List.rtakeWhile, List.reverse_append, List.takeWhile_append_of_pos all,
    List.reverse_append, List.reverse_reverse]
  rfl

theorem sinceReset_reset (log : List Record) : sinceReset (log ++ [reset]) = [] :=
  List.rtakeWhile_concat_neg _ _ _ (by simp)

/-- Without a reset in them, more records are read from where the reader stands. -/
theorem replay_append
    {records : List Record} (noReset : reset ∉ records) {log : List Record}
    {entries : List UInt16} (before : replay log = some entries) :
    replay (log ++ records) = (ofLevel .debug records).foldlM follow entries := by
  rw [replay, sinceReset_append noReset, ofLevel_append, List.foldlM_append]
  rw [replay] at before
  rw [before]
  rfl

/-- After a reset the reader starts with an empty list. -/
theorem replay_reset (log : List Record) : replay (log ++ [reset]) = some [] := by
  rw [replay, sinceReset_reset]
  rfl

end Record

end ChipEight
