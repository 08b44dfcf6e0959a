import ChipEight.Proofs.Pixels
import Mathlib.Data.List.OfFn

/-!
# The screen as text

The text of a picture that is held as bytes is made by cutting the bytes into rows and marking each
byte that is not zero, whereas a pixel is lit if its byte is one.  The two agree because every
operation on the screen leaves bytes that are zero or one, and because the cuts fall where the rows
of the picture end.

So the text is an encoding of the picture.  It is a table of thirty-two lines with a mark for each
lit pixel, and it can be read back.
-/

namespace ChipEight

/-! ## Cutting a list into pieces -/

namespace Cells

section Rows

variable {α : Type} (f : Nat → α)

theorem toList_ofFn_val (count : Nat) :
    (Vector.ofFn fun place : Fin count => f place.val).toList = (List.range count).map f := by
  refine List.ext_getElem (by simp) fun place _ _ => ?_
  simp

/-- The places counted row by row. -/
theorem map_range_mul (rows width : Nat) :
    (List.range (rows * width)).map f =
      ((List.range rows).map fun row =>
        (List.range width).map fun column => f (column + row * width)).flatten := by
  induction rows with
  | zero => simp
  | succ rows step =>
      rw [Nat.succ_mul, List.range_add, List.map_append, step, List.range_succ, List.map_append,
        List.flatten_append]
      simp [Function.comp_def, Nat.add_comm]

end Rows

section Chunks

variable {α : Type} {size : Nat}

/-- Until a piece is complete, elements are added to it. -/
theorem toChunks_go_append
    {piece : List α} {begun : Array α} (full : begun.size + piece.length = size) (rest : List α)
    (found : Array (List α)) :
    List.toChunks.go size (piece ++ rest) begun found =
      List.toChunks.go size rest (begun ++ piece.toArray) found := by
  induction piece generalizing begun with
  | nil => simp
  | cons first others step =>
      rw [List.length_cons] at full
      have short : begun.size ≠ size := by omega
      have fullPush : (begun.push first).size + others.length = size := by
        rw [Array.size_push]
        omega
      rw [List.cons_append, List.toChunks.go, if_neg (by simpa using short), step fullPush]
      simp

/-- From a piece that is begun on, the other pieces are found one after the other. -/
theorem toChunks_go_flatten
    {pieces : List (List α)} (positive : 0 < size) (full : ∀ piece ∈ pieces, piece.length = size)
    {begun : Array α} {piece : List α} (complete : begun.size + piece.length = size)
    (found : Array (List α)) :
    List.toChunks.go size (piece ++ pieces.flatten) begun found =
      found.toList ++ (begun.toList ++ piece) :: pieces := by
  induction pieces generalizing begun piece found with
  | nil =>
      rw [toChunks_go_append complete]
      simp [List.toChunks.go]
  | cons next rest step =>
      rcases List.forall_mem_cons.mp full with ⟨nextFull, restFull⟩
      cases next with
      | nil => exact absurd nextFull (Nat.ne_of_lt positive)
      | cons first others =>
          have nextComplete : ((Array.mkEmpty size).push first).size + others.length = size :=
            (Nat.add_comm _ _).trans nextFull
          have finished : (begun ++ piece.toArray).size = size := Array.size_append.trans complete
          rw [toChunks_go_append complete, List.flatten_cons, List.cons_append, List.toChunks.go,
            if_pos (by simpa using finished), step restFull nextComplete]
          simp

/-- Pieces of one size that were put together are found again. -/
theorem toChunks_flatten
    {pieces : List (List α)} (positive : 0 < size) (full : ∀ piece ∈ pieces, piece.length = size) :
    pieces.flatten.toChunks size = pieces := by
  cases pieces with
  | nil => simp [List.toChunks]
  | cons piece rest =>
      rcases List.forall_mem_cons.mp full with ⟨pieceFull, restFull⟩
      cases piece with
      | nil => exact absurd pieceFull (Nat.ne_of_lt positive)
      | cons first others =>
          have complete : #[first].size + others.length = size :=
            (Nat.add_comm _ _).trans pieceFull
          rw [List.flatten_cons, List.cons_append, List.toChunks,
            toChunks_go_flatten positive restFull complete]
          · rfl
          · exact fun zero => Nat.ne_of_gt positive zero

end Chunks

end Cells

/-! ## The table of pixels -/

namespace Frame

/-- Something for each pixel, row by row from the top. -/
def table {α : Type} (entry : Bool → α) (frame : Frame) : List (List α) :=
  (List.range height).map fun row => (List.range width).map fun column =>
    entry (frame.pixel column row)

variable {α β : Type} (entry : Bool → α) (frame : Frame)

theorem length_table : (frame.table entry).length = 32 := by
  simp [table]

theorem length_of_mem_table {line : List α} (listed : line ∈ frame.table entry) :
    line.length = 64 := by
  rcases List.mem_map.mp listed with ⟨row, _, rfl⟩
  simp

theorem getElem?_table {row : Nat} (inside : row < 32) :
    (frame.table entry)[row]? =
      some ((List.range width).map fun column => entry (frame.pixel column row)) := by
  simp [table, inside]

theorem map_table (other : α → β) :
    (frame.table entry).map (List.map other) = frame.table (other ∘ entry) := by
  simp [table, Function.comp_def]

def mark (lit : Bool) : Char :=
  if lit then 'X' else ' '

/-- The text is the lines of the table, each with its end. -/
theorem toList_text : frame.text.toList = (frame.table mark).flatMap (· ++ ['\n']) := by
  have rows : frame.rows.toList = (List.range height).map fun row => frame.rows[row]?.getD 0 := by
    refine List.ext_getElem (by simp) fun row inside _ => ?_
    have below : row < 32 := by simpa using inside
    simp [below]
  rw [text, String.toList_ofList, rows, table, List.flatMap_map, List.flatMap_map]
  rfl

end Frame

namespace Cells

/-- The bytes of a frame in order are those of its table. -/
theorem toList_ofFrame (frame : Frame) :
    (ofFrame frame).bytes.toList = (frame.table Bool.toUInt8).flatten := by
  rw [ofFrame, toList_ofFn_val fun cell =>
    (frame.pixel (cell % Frame.width) (cell / Frame.width)).toUInt8]
  refine (map_range_mul _ 32 64).trans (congrArg List.flatten ?_)
  refine List.map_congr_left fun row _ => List.map_congr_left fun column listed => ?_
  have inside : column < 64 := List.mem_range.mp listed
  rw [Micro.column_of_cell inside row, Micro.row_of_cell inside row]

/-! ## The text of the bytes -/

/-- Whether a pixel is lit; outside the screen nothing is. -/
def pixel (cells : Cells) (column row : Nat) : Bool :=
  decide (column < 64) && decide (row < 32) && cells.isLit (column + row * 64)

def mark (byte : UInt8) : Char :=
  if byte ≠ 0 then 'X' else ' '

/-- The bytes cut into rows, with each byte marked that is not zero and each row ended. -/
def text (cells : Cells) : String :=
  String.ofList ((cells.bytes.toList.toChunks 64).flatMap fun row => row.map mark ++ ['\n'])

/-- What a character of the text stands for; line feeds are passed over. -/
def unmark? : Char → Option UInt8
  | 'X' => some 1
  | ' ' => some 0
  | _ => none

/-- Read a text cell by cell. -/
def readBack (text : String) : List UInt8 :=
  text.toList.filterMap unmark?

theorem pixel_ofFrame (frame : Frame) (column row : Nat) :
    (ofFrame frame).pixel column row = frame.pixel column row := by
  by_cases inside : column < 64 ∧ row < 32
  · rcases inside with ⟨columnInside, rowInside⟩
    rw [pixel, decide_eq_true columnInside, decide_eq_true rowInside, isLit,
      getElem?_ofFrame frame columnInside rowInside]
    cases frame.pixel column row <;> rfl
  · have outside : Frame.width ≤ column ∨ Frame.height ≤ row :=
      (not_and_or.mp inside).imp Nat.not_lt.mp Nat.not_lt.mp
    rw [frame.pixel_outside outside, pixel, Bool.and_eq_false_iff]
    exact Or.inl (by simpa using fun columnInside rowInside => inside ⟨columnInside, rowInside⟩)

theorem mark_toUInt8 (lit : Bool) : mark lit.toUInt8 = Frame.mark lit := by
  cases lit <;> rfl

theorem text_ofFrame (frame : Frame) : (ofFrame frame).text = frame.text := by
  have full : ∀ row ∈ frame.table Bool.toUInt8, row.length = 64 :=
    fun _ listed => frame.length_of_mem_table _ listed
  have marked : mark ∘ Bool.toUInt8 = Frame.mark := funext mark_toUInt8
  have lines : (frame.table Bool.toUInt8).map (List.map mark) = frame.table Frame.mark := by
    rw [frame.map_table, marked]
  apply String.toList_injective
  rw [frame.toList_text, text, String.toList_ofList, toList_ofFrame,
    toChunks_flatten (by decide) full, ← lines, List.flatMap_map]

/-- From the text of a frame its bytes are read. -/
theorem readBack_text (frame : Frame) : readBack frame.text = (ofFrame frame).bytes.toList := by
  have cell : unmark? ∘ Frame.mark = some ∘ Bool.toUInt8 := by
    funext lit
    cases lit <;> rfl
  have ending : ['\n'].filterMap unmark? = [] := rfl
  have line (row : List Bool) :
      (row.map Frame.mark ++ ['\n']).filterMap unmark? = row.map Bool.toUInt8 := by
    rw [List.filterMap_append, List.filterMap_map, cell, List.filterMap_eq_map, ending,
      List.append_nil]
  have marks := frame.map_table id Frame.mark
  have bytes := frame.map_table id Bool.toUInt8
  rw [Function.comp_id] at marks bytes
  rw [readBack, frame.toList_text, toList_ofFrame, ← marks, ← bytes, List.flatMap_map,
    List.filterMap_flatMap, ← List.flatMap_def]
  exact congrArg (frame.table id).flatMap (funext line)

end Cells

/-! ## Screens in use -/

/-- What can be done to a screen. -/
inductive Screen.Change where
  | draw (stamp : Stamp)
  | clear
  | requestRedraw
  | takeRedraw

def Screen.apply (screen : Screen) : Change → Screen
  | .draw stamp => screen.draw stamp.x stamp.y stamp.sprite
  | .clear => screen.clear
  | .requestRedraw => screen.requestRedraw
  | .takeRedraw => screen.takeRedraw

/-- A new screen after a sequence of changes. -/
def Screen.after (changes : List Change) : Screen :=
  changes.foldl Screen.apply Screen.dark

namespace Cells

/-- The same change of the bytes, which do not know of the flag. -/
def apply (cells : Cells) : Screen.Change → Cells
  | .draw stamp => ((drawSprite stamp.x stamp.y stamp.sprite).run cells).2
  | .clear => dark
  | .requestRedraw | .takeRedraw => cells

def after (changes : List Screen.Change) : Cells :=
  changes.foldl apply dark

/-- A change of the cells is the same change of the picture. -/
theorem apply_ofFrame (screen : Screen) (change : Screen.Change) :
    (ofFrame screen.frame).apply change = ofFrame (screen.apply change).frame := by
  cases change with
  | draw stamp =>
      rw [apply, run_drawSprite_ofFrame]
      rfl
  | clear => exact ofFrame_blank.symm
  | requestRedraw => rfl
  | takeRedraw => rfl

/-- Changed alike from any picture, bytes stay those of the picture; so they stay zero or one. -/
theorem after_eq_ofFrame (changes : List Screen.Change) :
    after changes = ofFrame (Screen.after changes).frame := by
  have step (screen : Screen) :
      changes.foldl apply (ofFrame screen.frame) =
        ofFrame (changes.foldl Screen.apply screen).frame := by
    induction changes generalizing screen with
    | nil => rfl
    | cons change rest step =>
        rw [List.foldl_cons, List.foldl_cons, apply_ofFrame]
        exact step (screen.apply change)
  rw [after, ← ofFrame_blank]
  exact step Screen.dark

theorem text_after (changes : List Screen.Change) :
    (after changes).text = (Screen.after changes).frame.text := by
  rw [after_eq_ofFrame, text_ofFrame]

/-- From the text the cells can be read back. -/
theorem readBack_text_after (changes : List Screen.Change) :
    readBack (Screen.after changes).frame.text = (after changes).bytes.toList := by
  rw [after_eq_ofFrame, readBack_text]

theorem pixel_after (changes : List Screen.Change) (column row : Nat) :
    (after changes).pixel column row = (Screen.after changes).frame.pixel column row := by
  rw [after_eq_ofFrame, pixel_ofFrame]

/-- The texts of two screens are the same exactly if their bytes are. -/
theorem text_after_eq_iff (changes others : List Screen.Change) :
    (Screen.after changes).frame.text = (Screen.after others).frame.text ↔
      after changes = after others := by
  constructor
  · intro same
    have bytes := readBack_text_after changes
    rw [same, readBack_text_after] at bytes
    exact congrArg Cells.mk (Vector.toList_inj.mp bytes).symm
  · intro same
    rw [← text_after, same, text_after]

/--
The text of a screen is an encoding of its picture.  After any changes to a new screen, the text
that is made of the bytes is that of the picture.  It consists of thirty-two lines of sixty-four
characters, each ended by a line feed, with an `X` where the byte of the pixel is one and a space
where it is not.  Read back it gives the bytes, so the texts of two screens are the same exactly if
their bytes are.

The pixels of the picture are those of the bytes, and outside the screen none is lit, also where its
place counted from the top would be that of a pixel in another row.
-/
theorem text_encodes_picture (changes : List Screen.Change) :
    let frame := (Screen.after changes).frame
    let cells := after changes
    cells.text = frame.text ∧
      (∃ lines : List (List Char),
        lines.length = 32 ∧ (∀ line ∈ lines, line.length = 64) ∧
          frame.text.toList = lines.flatMap (· ++ ['\n']) ∧
          ∀ row < 32, ∃ marks, lines[row]? = some marks ∧
            ∀ column < 64, marks[column]? = some (if cells.pixel column row then 'X' else ' ')) ∧
      readBack frame.text = cells.bytes.toList ∧
      (∀ others, frame.text = (Screen.after others).frame.text ↔ cells = after others) ∧
      (∀ column row, frame.pixel column row = cells.pixel column row) ∧
      ∀ column row, 64 ≤ column ∨ 32 ≤ row → frame.pixel column row = false := by
  intro frame cells
  refine ⟨text_after changes, ⟨frame.table Frame.mark, frame.length_table _, ?_, frame.toList_text,
    ?_⟩, readBack_text_after changes, text_after_eq_iff changes,
    fun column row => (pixel_after changes column row).symm,
    fun _ _ outside => frame.pixel_outside outside⟩
  · exact fun line listed => frame.length_of_mem_table _ listed
  · intro row inside
    refine ⟨_, frame.getElem?_table _ inside, fun column within => ?_⟩
    rw [pixel_after]
    simp [within, Frame.mark, frame]

/-- Two pixels in the corner and one below the first of them. -/
def cornered : List Screen.Change :=
  [.draw ⟨64, 32, [0xC0, 0x80]⟩, .takeRedraw]

/-- The pixel below the corner stands where a column past the edge would be counted. -/
theorem text_encodes_picture_cornered :
    (after cornered).bytes[0 + 1 * 64]? = some 1 ∧
      (Screen.after cornered).frame.pixel 64 0 = false ∧
      (Screen.after cornered).frame.text ≠ (Screen.after []).frame.text ∧
      ∃ lines : List (List Char),
        (Screen.after cornered).frame.text.toList = lines.flatMap (· ++ ['\n']) ∧
          ∃ marks, lines[1]? = some marks ∧ marks[0]? = some 'X' ∧ marks[1]? = some ' ' := by
  rcases text_encodes_picture cornered with
    ⟨_, ⟨lines, _, _, text, entries⟩, _, differs, _, outside⟩
  have below : (after cornered).pixel 0 1 = true := by
    rw [pixel_after]
    decide +kernel
  have beside : (after cornered).pixel 1 1 = false := by
    rw [pixel_after]
    decide +kernel
  have place : (after cornered).bytes[0 + 1 * 64]? = some 1 := by
    rw [after_eq_ofFrame]
    exact (getElem?_ofFrame _ (by decide) (by decide)).trans (by decide +kernel)
  have start : (after []).bytes[0 + 1 * 64]? = some 0 := by decide
  rcases entries 1 (by decide) with ⟨marks, listed, columns⟩
  have first := columns 0 (by decide)
  have second := columns 1 (by decide)
  rw [below, if_pos rfl] at first
  rw [beside, if_neg Bool.false_ne_true] at second
  refine ⟨place, outside 64 0 (Or.inl (by decide)), ?_, lines, text, marks, listed, first, second⟩
  intro same
  rw [(differs []).mp same, start] at place
  cases place

end Cells

end ChipEight
