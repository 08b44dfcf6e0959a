import ChipEight.Proofs.Microcode

/-!
# Drawing cell by cell

The screen as an array of 2048 cells, the cell of a pixel being its column plus sixty-four times its
row.  The microprogram visits the bytes of a sprite from the top and the bits of each from the left,
stops at an edge, flips the cell of every set bit and notes whether it was lit.

No cell is visited twice, so what a flip finds is what was on the screen before, and the whole
agrees with `Frame.draw` and `Frame.collides`, which treat all rows at once.
-/

namespace ChipEight

namespace Frame

/-- Turn one pixel over. -/
def flip (column row : Nat) (frame : Frame) : Frame :=
  ⟨frame.rows.mapIdx fun line pixels =>
    if line = row then pixels ^^^ BitVec.twoPow width (width - 1 - column) else pixels⟩

theorem pixel_flip
    (frame : Frame) {column row otherColumn otherRow : Nat}
    (columnInside : column < width) (otherColumnInside : otherColumn < width)
    (otherRowInside : otherRow < height) :
    (frame.flip column row).pixel otherColumn otherRow =
      (frame.pixel otherColumn otherRow ^^
        decide (otherColumn = column ∧ otherRow = row)) := by
  rw [pixel_eq _ _ otherRowInside, pixel_eq _ _ otherRowInside]
  by_cases same : otherRow = row
  · have place : otherColumn = width - (width - 1 - column) - 1 ↔ otherColumn = column := by
      omega
    have bit : width - 1 - column < width := by omega
    simp only [flip, same, Vector.getElem_mapIdx, if_true, BitVec.getMsbD_xor,
      BitVec.getMsbD_twoPow, bit, place, decide_true, Bool.true_and, and_true]
  · simp [flip, same]

end Frame

namespace Micro

/-- Turn a cell over and tell whether it was lit. -/
def flipCell (cell : Nat) : Micro Bool := do
  let machine ← get
  let column := cell % Frame.width
  let row := cell / Frame.width
  if cell < Frame.width * Frame.height then
    set { machine with
      screen := { machine.screen with frame := machine.screen.frame.flip column row } }
    pure (machine.screen.frame.pixel column row)
  else trap

/-- Draw the bits of one row from a column on and tell whether a lit cell was turned off. -/
def drawBits (row : Nat) : Nat → List Bool → Micro Bool
  | _, [] => pure false
  | column, bit :: rest => do
      if Frame.width ≤ column then pure false
      else if bit then
        let erased ← flipCell (column + row * Frame.width)
        let later ← drawBits row (column + 1) rest
        pure (erased || later)
      else drawBits row (column + 1) rest

/-- The bits of a byte, the most significant first. -/
def bits (byte : UInt8) : List Bool :=
  (List.range 8).map byte.toBitVec.getMsbD

/-- Draw the bytes of a sprite from a row on and tell whether a lit cell was turned off. -/
def drawBytes (column : Nat) : Nat → List UInt8 → Micro Bool
  | _, [] => pure false
  | row, byte :: rest => do
      if Frame.height ≤ row then pure false
      else
        let erased ← drawBits row column (bits byte)
        let later ← drawBytes column (row + 1) rest
        pure (erased || later)

/-- Draw a sprite with its origin moved onto the screen. -/
def drawSprite (x y : Nat) (sprite : List UInt8) : Micro Bool := do
  let erased ← drawBytes (x % Frame.width) (y % Frame.height) sprite
  modify fun machine => { machine with screen := machine.screen.requestRedraw }
  pure erased

/-! ## Turning an area over -/

/-- The machine with another frame on its screen. -/
def showing (machine : Machine) (frame : Frame) : Machine :=
  { machine with screen := { machine.screen with frame := frame } }

@[simp]
theorem screen_showing (machine : Machine) (frame : Frame) :
    (showing machine frame).screen.frame = frame :=
  rfl

@[simp]
theorem showing_showing (machine : Machine) (first second : Frame) :
    showing (showing machine first) second = showing machine second :=
  rfl

/-- The program turns the pixels of an area over, and tells whether one of them was lit. -/
def Turns (program : Micro Bool) (area : Nat → Nat → Bool) : Prop :=
  ∀ machine : Machine, ∃ erased frame,
    program.run machine = .ok erased (showing machine frame) ∧
      (∀ row < Frame.height, ∀ column < Frame.width,
        frame.pixel column row = (machine.screen.frame.pixel column row ^^ area column row)) ∧
      (erased = true ↔ ∃ row < Frame.height, ∃ column < Frame.width,
        area column row = true ∧ machine.screen.frame.pixel column row = true)

theorem column_of_cell {column : Nat} (inside : column < Frame.width) (row : Nat) :
    (column + row * Frame.width) % Frame.width = column := by
  simp only [Frame.width] at inside ⊢
  omega

theorem row_of_cell {column : Nat} (inside : column < Frame.width) (row : Nat) :
    (column + row * Frame.width) / Frame.width = row := by
  simp only [Frame.width] at inside ⊢
  omega

theorem cell_lt
    {column row : Nat} (columnInside : column < Frame.width) (rowInside : row < Frame.height) :
    column + row * Frame.width < Frame.width * Frame.height := by
  simp only [Frame.width, Frame.height] at columnInside rowInside ⊢
  omega

/-- A flip turns the one place of its cell. -/
theorem turns_flipCell
    {column row : Nat} (columnInside : column < Frame.width) (rowInside : row < Frame.height) :
    Turns (flipCell (column + row * Frame.width))
      fun otherColumn otherRow => decide (otherColumn = column ∧ otherRow = row) := by
  have columnOf := column_of_cell columnInside row
  have rowOf := row_of_cell columnInside row
  have inside := cell_lt columnInside rowInside
  intro machine
  refine ⟨machine.screen.frame.pixel column row, machine.screen.frame.flip column row, ?_, ?_, ?_⟩
  · simp [flipCell, columnOf, rowOf, inside, showing]
  · intro otherRow otherRowInside otherColumn otherColumnInside
    exact Frame.pixel_flip _ columnInside otherColumnInside otherRowInside
  · constructor
    · intro lit
      exact ⟨row, rowInside, column, columnInside, by simp, lit⟩
    · rintro ⟨otherRow, _, otherColumn, _, here, lit⟩
      rcases of_decide_eq_true here with ⟨rfl, rfl⟩
      exact lit

namespace Turns

theorem nothing
    {area : Nat → Nat → Bool}
    (empty : ∀ row < Frame.height, ∀ column < Frame.width, area column row = false) :
    Turns (pure false) area := by
  intro machine
  refine ⟨false, machine.screen.frame, rfl, ?_, ?_⟩
  · intro row rowInside column columnInside
    simp [empty row rowInside column columnInside]
  · simp only [Bool.false_eq_true, false_iff]
    rintro ⟨row, rowInside, column, columnInside, covered, _⟩
    rw [empty row rowInside column columnInside] at covered
    cases covered

theorem congr
    {program : Micro Bool} {area other : Nat → Nat → Bool} (turns : Turns program area)
    (same : ∀ row < Frame.height, ∀ column < Frame.width, area column row = other column row) :
    Turns program other := by
  intro machine
  rcases turns machine with ⟨erased, frame, ran, pixels, lit⟩
  refine ⟨erased, frame, ran, ?_, lit.trans ?_⟩
  · intro row rowInside column columnInside
    rw [pixels row rowInside column columnInside, same row rowInside column columnInside]
  · constructor
    · rintro ⟨row, rowInside, column, columnInside, covered, litThere⟩
      rw [same row rowInside column columnInside] at covered
      exact ⟨row, rowInside, column, columnInside, covered, litThere⟩
    · rintro ⟨row, rowInside, column, columnInside, covered, litThere⟩
      rw [← same row rowInside column columnInside] at covered
      exact ⟨row, rowInside, column, columnInside, covered, litThere⟩

/-- Two areas without a common pixel, one after the other. -/
theorem andThen
    {first second : Micro Bool} {firstArea secondArea : Nat → Nat → Bool}
    (firstTurns : Turns first firstArea) (secondTurns : Turns second secondArea)
    (disjoint : ∀ column row, firstArea column row = true → secondArea column row = false) :
    Turns (do
        let erased ← first
        let later ← second
        pure (erased || later))
      fun column row => firstArea column row || secondArea column row := by
  intro machine
  rcases firstTurns machine with ⟨erased, between, firstRan, firstPixels, firstLit⟩
  rcases secondTurns (showing machine between) with ⟨later, last, secondRan, lastPixels, lastLit⟩
  rw [screen_showing] at lastPixels lastLit
  have untouched : ∀ row < Frame.height, ∀ column < Frame.width, secondArea column row = true →
      between.pixel column row = machine.screen.frame.pixel column row := by
    intro row rowInside column columnInside covered
    rw [firstPixels row rowInside column columnInside]
    cases both : firstArea column row with
    | false => simp
    | true =>
        rw [disjoint column row both] at covered
        cases covered
  refine ⟨erased || later, last, ?_, ?_, ?_⟩
  · simp [firstRan, secondRan]
  · intro row rowInside column columnInside
    rw [lastPixels row rowInside column columnInside,
      firstPixels row rowInside column columnInside]
    show _ = (_ ^^ (firstArea column row || secondArea column row))
    cases covered : firstArea column row with
    | false => simp
    | true => simp [disjoint column row covered]
  · rw [Bool.or_eq_true, firstLit, lastLit]
    constructor
    · rintro (⟨row, rowInside, column, columnInside, covered, lit⟩ |
        ⟨row, rowInside, column, columnInside, covered, lit⟩)
      · exact ⟨row, rowInside, column, columnInside, by simp [covered], lit⟩
      · rw [untouched row rowInside column columnInside covered] at lit
        exact ⟨row, rowInside, column, columnInside, by simp [covered], lit⟩
    · rintro ⟨row, rowInside, column, columnInside, covered, lit⟩
      rcases (Bool.or_eq_true _ _).mp covered with inFirst | inSecond
      · exact Or.inl ⟨row, rowInside, column, columnInside, inFirst, lit⟩
      · refine Or.inr ⟨row, rowInside, column, columnInside, inSecond, ?_⟩
        rw [untouched row rowInside column columnInside inSecond]
        exact lit

end Turns

/-! ## What is covered -/

/-- Whether the bits cover a place when the first of them stands at `first`. -/
def covers (first : Nat) (bits : List Bool) (place : Nat) : Bool :=
  decide (first ≤ place) && bits[place - first]?.getD false

theorem covers_nil (first place : Nat) : covers first [] place = false := by
  simp [covers]

theorem covers_cons (first : Nat) (bit : Bool) (rest : List Bool) (place : Nat) :
    covers first (bit :: rest) place =
      (decide (place = first) && bit || covers (first + 1) rest place) := by
  by_cases here : place = first
  · subst here
    have past : ¬ place + 1 ≤ place := by omega
    simp [covers, past]
  · by_cases later : first + 1 ≤ place
    · obtain ⟨offset, rfl⟩ := Nat.exists_eq_add_of_le later
      have index : first + 1 + offset - first = offset + 1 := by omega
      have start : first ≤ first + 1 + offset := by omega
      simp [covers, here, index, start]
    · have before : ¬ first ≤ place := by omega
      simp [covers, here, later, before]

theorem not_covers_of_lt
    {first place : Nat} (before : place < first) (bits : List Bool) :
    covers first bits place = false := by
  simp [covers, Nat.not_le.mpr before]

/-- Whether a sprite with its first byte in a row and its first bits in a column covers a pixel. -/
def coversPixel (firstColumn firstRow : Nat) (sprite : List UInt8) (column row : Nat) : Bool :=
  decide (firstRow ≤ row) &&
    match sprite[row - firstRow]? with
    | some byte => covers firstColumn (bits byte) column
    | none => false

theorem coversPixel_cons
    (firstColumn firstRow : Nat) (byte : UInt8) (rest : List UInt8) (column row : Nat) :
    coversPixel firstColumn firstRow (byte :: rest) column row =
      (decide (row = firstRow) && covers firstColumn (bits byte) column ||
        coversPixel firstColumn (firstRow + 1) rest column row) := by
  by_cases here : row = firstRow
  · subst here
    have past : ¬ row + 1 ≤ row := by omega
    simp [coversPixel, past]
  · by_cases later : firstRow + 1 ≤ row
    · obtain ⟨offset, rfl⟩ := Nat.exists_eq_add_of_le later
      have index : firstRow + 1 + offset - firstRow = offset + 1 := by omega
      have start : firstRow ≤ firstRow + 1 + offset := by omega
      simp [coversPixel, here, index, start]
    · have before : ¬ firstRow ≤ row := by omega
      simp [coversPixel, here, later, before]

/-- A sprite covers nothing above where it begins. -/
theorem not_coversPixel_of_lt
    {firstRow row : Nat} (before : row < firstRow) (firstColumn : Nat) (sprite : List UInt8)
    (column : Nat) : coversPixel firstColumn firstRow sprite column row = false := by
  simp [coversPixel, Nat.not_le.mpr before]

/-! ## The two loops -/

/-- A pattern turns the places of its bits in one row. Each place lies to the left of all that the
rest covers. -/
theorem turns_drawBits
    {row : Nat} (rowInside : row < Frame.height) (first : Nat) (pattern : List Bool) :
    Turns (drawBits row first pattern)
      fun column line => decide (line = row) && covers first pattern column := by
  induction pattern generalizing first with
  | nil => exact Turns.nothing fun _ _ _ _ => by simp [covers_nil]
  | cons bit rest step =>
      rw [drawBits]
      by_cases edge : Frame.width ≤ first
      · rw [if_pos edge]
        refine Turns.nothing fun line _ column columnInside => ?_
        rw [not_covers_of_lt (Nat.lt_of_lt_of_le columnInside edge), Bool.and_false]
      · rw [if_neg edge]
        have inside : first < Frame.width := Nat.not_le.mp edge
        cases bit with
        | false =>
            refine (step (first + 1)).congr fun line _ column _ => ?_
            simp [covers_cons]
        | true =>
            refine Turns.congr ((turns_flipCell inside rowInside).andThen (step (first + 1)) ?_) ?_
            · intro column line here
              rcases of_decide_eq_true here with ⟨rfl, rfl⟩
              rw [not_covers_of_lt (Nat.lt_succ_self column), Bool.and_false]
            · intro line _ column _
              rw [covers_cons]
              by_cases same : line = row <;> simp [same]

/-- A sprite turns the pixels that it covers. Each row lies above all that the rest covers. -/
theorem turns_drawBytes (firstColumn firstRow : Nat) (sprite : List UInt8) :
    Turns (drawBytes firstColumn firstRow sprite) (coversPixel firstColumn firstRow sprite) := by
  induction sprite generalizing firstRow with
  | nil => exact Turns.nothing fun _ _ _ _ => by simp [coversPixel]
  | cons byte rest step =>
      rw [drawBytes]
      by_cases edge : Frame.height ≤ firstRow
      · rw [if_pos edge]
        refine Turns.nothing fun row rowInside column _ => ?_
        exact not_coversPixel_of_lt (Nat.lt_of_lt_of_le rowInside edge) _ _ _
      · rw [if_neg edge]
        have inside : firstRow < Frame.height := Nat.not_le.mp edge
        refine Turns.congr ((turns_drawBits inside firstColumn (bits byte)).andThen
          (step (firstRow + 1)) ?_) ?_
        · intro column row here
          rcases Bool.and_eq_true_iff.mp here with ⟨same, _⟩
          rw [of_decide_eq_true same]
          exact not_coversPixel_of_lt (Nat.lt_succ_self firstRow) _ _ _
        · intro row _ column _
          rw [coversPixel_cons]

/-! ## Agreement with the frame -/

theorem getMsbD_stripe (first : Nat) (byte : UInt8) {column : Nat} (inside : column < Frame.width) :
    (Frame.stripe first byte).getMsbD column = covers first (bits byte) column := by
  have bit (place : Nat) : byte.toBitVec.getMsbD place = (bits byte)[place]?.getD false := by
    by_cases within : place < 8
    · simp [bits, within]
    · simp [bits, within, BitVec.getMsbD_of_ge _ _ (Nat.not_lt.mp within)]
  by_cases start : first ≤ column
  · have after : ¬ column < first := Nat.not_lt.mpr start
    simp only [Frame.width] at inside
    simp [Frame.stripe, covers, start, after, inside, bit, BitVec.getMsbD_ushiftRight,
      BitVec.getMsbD_shiftLeft, BitVec.getMsbD_setWidth]
  · have before : column < first := Nat.not_le.mp start
    simp [Frame.stripe, covers, start, before, BitVec.getMsbD_ushiftRight]

/-- The row that a sprite adds to the frame has the bits of the pixels it covers. -/
theorem getMsbD_spriteRow
    (x y : Nat) (sprite : List UInt8) (row : Nat) {column : Nat} (inside : column < Frame.width) :
    (Frame.spriteRow x y sprite row).getMsbD column =
      coversPixel (x % Frame.width) (y % Frame.height) sprite column row := by
  by_cases reached : y % Frame.height ≤ row
  · cases found : sprite[row - y % Frame.height]? with
    | none => simp [Frame.spriteRow, coversPixel, reached, found]
    | some byte => simp [Frame.spriteRow, coversPixel, reached, found, getMsbD_stripe _ _ inside]
  · simp [Frame.spriteRow, coversPixel, reached]

theorem ne_zero_iff_getMsbD (word : BitVec Frame.width) :
    word ≠ 0 ↔ ∃ column < Frame.width, word.getMsbD column = true := by
  constructor
  · intro nonzero
    refine Classical.byContradiction fun dark => ?_
    refine nonzero (BitVec.eq_of_getMsbD_eq fun column inside => ?_)
    cases bit : word.getMsbD column with
    | false => simp
    | true => exact absurd ⟨column, inside, bit⟩ dark
  · rintro ⟨column, _, lit⟩ rfl
    simp at lit

/-- A sprite collides if it covers a pixel that is lit. -/
theorem collides_eq_true_iff (x y : Nat) (sprite : List UInt8) (frame : Frame) :
    frame.collides x y sprite = true ↔
      ∃ row < Frame.height, ∃ column < Frame.width,
        coversPixel (x % Frame.width) (y % Frame.height) sprite column row = true ∧
          frame.pixel column row = true := by
  simp only [Frame.collides, List.any_eq_true, List.mem_finRange, true_and, bne_iff_ne,
    ne_zero_iff_getMsbD, BitVec.getMsbD_and, Bool.and_eq_true]
  constructor
  · rintro ⟨row, column, inside, lit, covered⟩
    rw [getMsbD_spriteRow _ _ _ _ inside] at covered
    exact ⟨row.val, row.isLt, column, inside, covered, (frame.pixel_eq column row.isLt).trans lit⟩
  · rintro ⟨row, rowInside, column, inside, covered, lit⟩
    rw [← getMsbD_spriteRow _ _ _ _ inside] at covered
    exact ⟨⟨row, rowInside⟩, column, inside, (frame.pixel_eq column rowInside).symm.trans lit,
      covered⟩

/-- The microprogram draws the sprite as the frame does and tells whether it collided. -/
theorem run_drawSprite (x y : Nat) (sprite : List UInt8) (machine : Machine) :
    (drawSprite x y sprite).run machine =
      .ok (machine.screen.frame.collides x y sprite)
        { machine with screen := machine.screen.draw x y sprite } := by
  rcases turns_drawBytes (x % Frame.width) (y % Frame.height) sprite machine with
    ⟨erased, frame, ran, pixels, lit⟩
  have sameFrame : frame = machine.screen.frame.draw x y sprite := by
    refine Frame.ext_pixel fun row rowInside column columnInside => ?_
    rw [pixels row rowInside column columnInside, Frame.pixel_draw _ _ _ _ _ rowInside,
      getMsbD_spriteRow _ _ _ _ columnInside]
  have sameResult : erased = machine.screen.frame.collides x y sprite := by
    rw [Bool.eq_iff_iff, lit, collides_eq_true_iff]
  simp [drawSprite, ran, sameFrame, sameResult, showing, Screen.draw, Screen.requestRedraw]

end Micro

end ChipEight
