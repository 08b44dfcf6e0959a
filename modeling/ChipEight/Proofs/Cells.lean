import ChipEight.Proofs.Microcode.Sprite

/-!
# The screen as bytes

A second account of the picture: one byte for each pixel, row by row from the top.  A byte can hold
more than the two values of a pixel.  Drawing changes the lowest bit of a byte and tells from the
whole byte whether the cell was lit, which is right only as long as every byte is zero or one.

`ofFrame` gives the bytes of a frame.  On these, drawing byte by byte comes to the frame and the
collision of `Frame.draw` and `Frame.collides`: the two loops over the bytes are followed operation
by operation by the microprogram that draws.
-/

namespace ChipEight

/-- One byte for each pixel, row by row from the top. -/
structure Cells where
  bytes : Vector UInt8 2048
deriving DecidableEq

namespace Cells

def dark : Cells :=
  ⟨Vector.replicate 2048 0⟩

theorem ext_bytes
    {first second : Cells}
    (same : ∀ (cell : Nat) (inside : cell < 2048), first.bytes[cell] = second.bytes[cell]) :
    first = second := by
  cases first
  cases second
  congr 1
  exact Vector.ext same

/-- Whether a cell holds one. -/
def isLit (cells : Cells) (cell : Nat) : Bool :=
  cells.bytes[cell]? == some 1

/-- Change the lowest bit of a cell. -/
def flip (cell : Nat) (cells : Cells) : Cells :=
  ⟨cells.bytes.mapIdx fun place byte => if place = cell then byte ^^^ 1 else byte⟩

/-- Flip a cell and tell whether it was lit. -/
def flipCell (cell : Nat) : StateM Cells Bool := do
  let cells ← get
  set (cells.flip cell)
  pure (cells.isLit cell)

theorem run_flipCell (cell : Nat) (cells : Cells) :
    (flipCell cell).run cells = pure (cells.isLit cell, cells.flip cell) :=
  rfl

/-- Draw the bits of one row from a column on and tell whether a lit cell was flipped. -/
def drawBits (row : Nat) : Nat → List Bool → StateM Cells Bool
  | _, [] => pure false
  | column, bit :: rest => do
      if Frame.width ≤ column then pure false
      else if bit then
        let erased ← flipCell (column + row * Frame.width)
        let later ← drawBits row (column + 1) rest
        pure (erased || later)
      else drawBits row (column + 1) rest

/-- Draw the bytes of a sprite from a row on and tell whether a lit cell was flipped. -/
def drawBytes (column : Nat) : Nat → List UInt8 → StateM Cells Bool
  | _, [] => pure false
  | row, byte :: rest => do
      if Frame.height ≤ row then pure false
      else
        let erased ← drawBits row column (Micro.bits byte)
        let later ← drawBytes column (row + 1) rest
        pure (erased || later)

/-- Draw a sprite with its origin moved onto the screen. -/
def drawSprite (x y : Nat) (sprite : List UInt8) : StateM Cells Bool :=
  drawBytes (x % Frame.width) (y % Frame.height) sprite

/-! ## The bytes of a frame -/

def ofFrame (frame : Frame) : Cells :=
  ⟨Vector.ofFn fun cell =>
    (frame.pixel (cell.val % Frame.width) (cell.val / Frame.width)).toUInt8⟩

/-- Cells hold the rows one after another, a byte for each pixel. -/
theorem getElem_ofFrame (frame : Frame) {cell : Nat} (inside : cell < 2048) :
    (ofFrame frame).bytes[cell] =
      (frame.pixel (cell % Frame.width) (cell / Frame.width)).toUInt8 := by
  simp [ofFrame]

@[simp]
theorem ofFrame_blank : ofFrame Frame.blank = dark := by
  refine ext_bytes fun cell inside => ?_
  rw [getElem_ofFrame Frame.blank inside, Frame.pixel_blank, dark, Vector.getElem_replicate]
  rfl

theorem isLit_ofFrame (frame : Frame) {cell : Nat} (inside : cell < 2048) :
    (ofFrame frame).isLit cell = frame.pixel (cell % Frame.width) (cell / Frame.width) := by
  rw [isLit, Vector.getElem?_eq_getElem inside, getElem_ofFrame frame inside]
  cases frame.pixel (cell % Frame.width) (cell / Frame.width) <;> rfl

/-- Flipping a cell of a frame flips the pixel; this is where the bytes have to be zero or one. -/
theorem flip_ofFrame
    (frame : Frame) {column row : Nat} (columnInside : column < Frame.width) :
    (ofFrame frame).flip (column + row * Frame.width) = ofFrame (frame.flip column row) := by
  refine ext_bytes fun cell inside => ?_
  have otherColumn : cell % Frame.width < Frame.width := Nat.mod_lt _ (by decide)
  have otherRow : cell / Frame.width < Frame.height := by
    simp only [Frame.width, Frame.height]
    omega
  have place : cell = column + row * Frame.width ↔
      cell % Frame.width = column ∧ cell / Frame.width = row := by
    simp only [Frame.width] at columnInside ⊢
    omega
  simp only [flip, Vector.getElem_mapIdx, getElem_ofFrame _ inside,
    Frame.pixel_flip frame columnInside otherColumn otherRow, place]
  by_cases here : cell % Frame.width = column ∧ cell / Frame.width = row
  · simp only [here, and_self, if_true, decide_true, Bool.xor_true]
    cases frame.pixel column row <;> rfl
  · simp [here]

/-! ## Drawing -/

/-- On the bytes of a frame, a program does what a microprogram does with the frame. -/
def Mirrors (program : StateM Cells Bool) (other : Micro Bool) : Prop :=
  ∀ machine : Machine, ∃ erased frame,
    other.run machine = .ok erased (Micro.showing machine frame) ∧
      program.run (ofFrame machine.screen.frame) = pure (erased, ofFrame frame)

namespace Mirrors

theorem nothing : Mirrors (pure false) (pure false) :=
  fun machine => ⟨false, machine.screen.frame, rfl, rfl⟩

theorem flipCell
    {column row : Nat} (columnInside : column < Frame.width) (rowInside : row < Frame.height) :
    Mirrors (flipCell (column + row * Frame.width))
      (Micro.flipCell (column + row * Frame.width)) := by
  have columnOf := Micro.column_of_cell columnInside row
  have rowOf := Micro.row_of_cell columnInside row
  have inside := Micro.cell_lt columnInside rowInside
  intro machine
  refine ⟨machine.screen.frame.pixel column row, machine.screen.frame.flip column row, ?_, ?_⟩
  · simp [Micro.flipCell, columnOf, rowOf, inside, Micro.showing]
  · rw [run_flipCell, isLit_ofFrame _ inside, columnOf, rowOf, flip_ofFrame _ columnInside]

theorem andThen
    {first second : StateM Cells Bool} {otherFirst otherSecond : Micro Bool}
    (firstMirrors : Mirrors first otherFirst) (secondMirrors : Mirrors second otherSecond) :
    Mirrors
      (do
        let erased ← first
        let later ← second
        pure (erased || later))
      (do
        let erased ← otherFirst
        let later ← otherSecond
        pure (erased || later)) := by
  intro machine
  rcases firstMirrors machine with ⟨erased, between, firstRan, firstSame⟩
  rcases secondMirrors (Micro.showing machine between) with ⟨later, last, secondRan, secondSame⟩
  rw [Micro.screen_showing] at secondSame
  refine ⟨erased || later, last, ?_, ?_⟩
  · simp [firstRan, secondRan]
  · simp only [StateT.run_bind, firstSame, secondSame, pure_bind, StateT.run_pure]

end Mirrors

/-- A row of a sprite flips the same cells in both accounts. -/
theorem mirrors_drawBits
    {row : Nat} (rowInside : row < Frame.height) (column : Nat) (pattern : List Bool) :
    Mirrors (drawBits row column pattern) (Micro.drawBits row column pattern) := by
  induction pattern generalizing column with
  | nil => exact Mirrors.nothing
  | cons bit rest step =>
      rw [drawBits, Micro.drawBits]
      by_cases edge : Frame.width ≤ column
      · rw [if_pos edge, if_pos edge]
        exact Mirrors.nothing
      · rw [if_neg edge, if_neg edge]
        cases bit with
        | false => exact step (column + 1)
        | true =>
            exact (Mirrors.flipCell (Nat.not_le.mp edge) rowInside).andThen (step (column + 1))

theorem mirrors_drawBytes (column row : Nat) (sprite : List UInt8) :
    Mirrors (drawBytes column row sprite) (Micro.drawBytes column row sprite) := by
  induction sprite generalizing row with
  | nil => exact Mirrors.nothing
  | cons byte rest step =>
      rw [drawBytes, Micro.drawBytes]
      by_cases edge : Frame.height ≤ row
      · rw [if_pos edge, if_pos edge]
        exact Mirrors.nothing
      · rw [if_neg edge, if_neg edge]
        exact (mirrors_drawBits (Nat.not_le.mp edge) column (Micro.bits byte)).andThen
          (step (row + 1))

/-- Drawn on byte by byte, the bytes of a frame become those of the frame drawn on as a whole. -/
theorem run_drawSprite (x y : Nat) (sprite : List UInt8) (machine : Machine) :
    (drawSprite x y sprite).run (ofFrame machine.screen.frame) =
      pure (machine.screen.frame.collides x y sprite,
        ofFrame (machine.screen.frame.draw x y sprite)) := by
  rcases mirrors_drawBytes (x % Frame.width) (y % Frame.height) sprite machine with
    ⟨erased, frame, ran, same⟩
  let shown := Micro.showing machine frame
  have drawn : (Micro.drawSprite x y sprite).run machine =
      .ok erased { shown with screen := shown.screen.requestRedraw } := by
    simp [Micro.drawSprite, ran, shown]
  rw [Micro.run_drawSprite, EStateM.Result.ok.injEq] at drawn
  have sameFrame : machine.screen.frame.draw x y sprite = frame :=
    congrArg (·.screen.frame) drawn.2
  rw [drawSprite, same, drawn.1, sameFrame]

end Cells

end ChipEight
