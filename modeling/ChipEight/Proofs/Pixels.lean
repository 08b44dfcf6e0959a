import ChipEight.Proofs.Stamps

/-!
# Drawing place by place

What drawing makes of one place of the screen, said without the rows and the loops that draw.  A
place is turned over exactly if a set bit of the sprite stands there; all other places stay, also
those to the right of the edge, which are not the first ones of the next row.  The collision is read
off the pictures before and after: some place was lit and is dark.

The account holds for origins anywhere and for sprites of any length.  It is proved for frames
through their pixels, and then for a picture held as bytes.
-/

namespace ChipEight

namespace Stamp

/--
A set bit of the sprite stands in this place, if the origin is moved onto the screen and nothing is
clipped: the first byte stands in the row of the origin, and the first bit of each byte, the most
significant one, in its column.
-/
def SetsBit (stamp : Stamp) (column row : Nat) : Prop :=
  let left := stamp.x % 64
  let top := stamp.y % 32
  left ≤ column ∧ column < left + 8 ∧ top ≤ row ∧ row < top + stamp.sprite.length ∧
    (stamp.sprite[row - top]?.getD 0).toNat.testBit (7 - (column - left)) = true

instance (stamp : Stamp) (column row : Nat) : Decidable (stamp.SetsBit column row) :=
  inferInstanceAs (Decidable (_ ∧ _ ∧ _ ∧ _ ∧ _))

/-- What shows of a sprite are its set bits that stand on the screen. -/
theorem shows_iff_setsBit (stamp : Stamp) (column row : Nat) :
    stamp.Shows column row ↔
      column < Frame.width ∧ row < Frame.height ∧ stamp.SetsBit column row := by
  constructor
  · rintro ⟨line, place, rfl, rfl, columnInside, rowInside, within, byte, found, bit⟩
    have listed : line < stamp.sprite.length := (List.getElem?_eq_some_iff.mp found).1
    refine ⟨columnInside, rowInside, Nat.le_add_right _ _, Nat.add_lt_add_left within _,
      Nat.le_add_right _ _, Nat.add_lt_add_left listed _, ?_⟩
    rw [Nat.add_sub_cancel_left, Nat.add_sub_cancel_left, found]
    exact bit
  · rintro ⟨columnInside, rowInside, right, columnReach, below, rowReach, bit⟩
    have within : column - stamp.x % 64 < 8 := Nat.sub_lt_left_of_lt_add right columnReach
    have listed : row - stamp.y % 32 < stamp.sprite.length :=
      Nat.sub_lt_left_of_lt_add below rowReach
    rw [List.getElem?_eq_getElem listed] at bit
    exact ⟨row - stamp.y % 32, column - stamp.x % 64, (Nat.add_sub_of_le right).symm,
      (Nat.add_sub_of_le below).symm, columnInside, rowInside, within, _,
      List.getElem?_eq_getElem listed, bit⟩

end Stamp

/-! ## Frames -/

namespace Frame

theorem pixel_draw_of_not_shows
    {stamp : Stamp} {column row : Nat} (other : ¬ stamp.Shows column row) (frame : Frame) :
    (frame.draw stamp.x stamp.y stamp.sprite).pixel column row = frame.pixel column row := by
  by_cases outside : width ≤ column ∨ height ≤ row
  · rw [pixel_outside _ outside, pixel_outside _ outside]
  · rcases not_or.mp outside with ⟨notRight, notBelow⟩
    have columnInside : column < width := Nat.not_le.mp notRight
    have rowInside : row < height := Nat.not_le.mp notBelow
    have uncovered : Micro.coversPixel (stamp.x % width) (stamp.y % height) stamp.sprite column
        row = false :=
      Bool.eq_false_iff.mpr fun covered =>
        other ((stamp.shows_iff column row).mpr ⟨columnInside, rowInside, covered⟩)
    rw [pixel_draw _ _ _ _ _ rowInside, Micro.getMsbD_spriteRow _ _ _ _ columnInside, uncovered,
      Bool.xor_false]

/-- Drawing collides exactly if a lit pixel is dark afterwards. -/
theorem collides_iff_turned_off (stamp : Stamp) (frame : Frame) :
    frame.collides stamp.x stamp.y stamp.sprite = true ↔
      ∃ column row, frame.pixel column row = true ∧
        (frame.draw stamp.x stamp.y stamp.sprite).pixel column row = false := by
  rw [collides_iff]
  refine exists_congr fun column => exists_congr fun row => ?_
  constructor
  · rintro ⟨shows, lit⟩
    exact ⟨lit, by rw [pixel_draw_of_shows shows, lit, Bool.not_true]⟩
  · rintro ⟨lit, dark⟩
    refine ⟨Classical.byContradiction fun other => ?_, lit⟩
    rw [pixel_draw_of_not_shows other, lit] at dark
    cases dark

end Frame

/-! ## Bytes -/

namespace Cells

/-- The byte of a place, counted row by row from the top. -/
theorem getElem?_ofFrame
    (frame : Frame) {column row : Nat} (columnInside : column < 64) (rowInside : row < 32) :
    (ofFrame frame).bytes[column + row * 64]? = some (frame.pixel column row).toUInt8 := by
  have inside : column + row * 64 < 2048 := Micro.cell_lt columnInside rowInside
  have columnOf : (column + row * 64) % Frame.width = column :=
    Micro.column_of_cell columnInside row
  have rowOf : (column + row * 64) / Frame.width = row := Micro.row_of_cell columnInside row
  rw [Vector.getElem?_eq_getElem inside, getElem_ofFrame frame inside, columnOf, rowOf]

/-- Some byte changes from one to zero exactly if some lit pixel is dark in the other frame. -/
theorem exists_byte_cleared_iff (before after : Frame) :
    (∃ cell : Nat, (ofFrame before).bytes[cell]? = some 1 ∧
        (ofFrame after).bytes[cell]? = some 0) ↔
      ∃ column row, before.pixel column row = true ∧ after.pixel column row = false := by
  constructor
  · rintro ⟨cell, one, zero⟩
    have inside : cell < 2048 := (Vector.getElem?_eq_some_iff.mp one).1
    rw [Vector.getElem?_eq_getElem inside, getElem_ofFrame _ inside, Option.some.injEq] at one zero
    refine ⟨cell % Frame.width, cell / Frame.width, ?_, ?_⟩
    · cases lit : before.pixel (cell % Frame.width) (cell / Frame.width) with
      | true => rfl
      | false =>
          rw [lit] at one
          cases one
    · cases lit : after.pixel (cell % Frame.width) (cell / Frame.width) with
      | false => rfl
      | true =>
          rw [lit] at zero
          cases zero
  · rintro ⟨column, row, lit, dark⟩
    have inside : ¬ (Frame.width ≤ column ∨ Frame.height ≤ row) := by
      intro outside
      rw [before.pixel_outside outside] at lit
      cases lit
    rcases not_or.mp inside with ⟨notRight, notBelow⟩
    have columnInside : column < 64 := Nat.not_le.mp notRight
    have rowInside : row < 32 := Nat.not_le.mp notBelow
    refine ⟨column + row * 64, ?_, ?_⟩
    · rw [getElem?_ofFrame before columnInside rowInside, lit]
      rfl
    · rw [getElem?_ofFrame after columnInside rowInside, dark]
      rfl

/--
Drawing, place by place.  On any bytes that are zero or one, draw a sprite of any length with its
origin anywhere.  The lowest bit of a byte on the screen is changed if a set bit of the sprite
stands there, and the byte is left as it was otherwise.  The result tells whether some byte went
from one to zero.

The screen whose pixels the bytes are has the same result and the pixels of the new bytes.  The flag
is set whatever was drawn.
-/
theorem draw_place_by_place {cells : Cells} (binary : cells.Binary) (stamp : Stamp)
    (redraw : Bool) :
    let screen : Screen := ⟨cells.toFrame, redraw⟩
    let drawn := screen.draw stamp.x stamp.y stamp.sprite
    ∃ erased later,
      (drawSprite stamp.x stamp.y stamp.sprite).run cells = pure (erased, later) ∧
        (∀ column < 64, ∀ row < 32,
          later.bytes[column + row * 64]? =
            if stamp.SetsBit column row then
              cells.bytes[column + row * 64]?.map (· ^^^ 1)
            else cells.bytes[column + row * 64]?) ∧
        (erased = true ↔ ∃ cell : Nat,
          cells.bytes[cell]? = some 1 ∧ later.bytes[cell]? = some 0) ∧
        screen.frame.collides stamp.x stamp.y stamp.sprite = erased ∧
        ofFrame screen.frame = cells ∧ ofFrame drawn.frame = later ∧ drawn.redraw = true := by
  intro screen drawn
  have same : ofFrame screen.frame = cells := ofFrame_toFrame binary
  have after : drawn.frame = screen.frame.draw stamp.x stamp.y stamp.sprite := rfl
  refine ⟨_, _, ?_, ?_, ?_, rfl, same, rfl, rfl⟩
  · rw [after, ← run_drawSprite_ofFrame, same]
  · intro column columnInside row rowInside
    have shows : stamp.Shows column row ↔ stamp.SetsBit column row := by
      rw [stamp.shows_iff_setsBit]
      exact ⟨fun shown => shown.2.2, fun sets => ⟨columnInside, rowInside, sets⟩⟩
    rw [← same, getElem?_ofFrame _ columnInside rowInside,
      getElem?_ofFrame _ columnInside rowInside, after]
    by_cases sets : stamp.SetsBit column row
    · rw [if_pos sets, Frame.pixel_draw_of_shows (shows.mpr sets)]
      cases screen.frame.pixel column row <;> rfl
    · rw [if_neg sets, Frame.pixel_draw_of_not_shows fun shown => sets (shows.mp shown)]
  · rw [Frame.collides_iff_turned_off, ← exists_byte_cleared_iff, same, after]

/-- A sprite far off the screen whose origin comes to the last column but one and the last row. -/
def reaching : Stamp :=
  ⟨64 * 1000 + 62, 32 * 1000 + 31, [0xFF, 0xFF]⟩

/-- Of a sprite at the corner only the bits that stand on the screen are drawn. -/
theorem draw_place_by_place_reaching :
    oneLit.Binary ∧
      ∃ later, (drawSprite reaching.x reaching.y reaching.sprite).run oneLit =
          pure (true, later) ∧
        later.bytes[62 + 31 * 64]? = some 0 ∧ later.bytes[63 + 31 * 64]? = some 1 ∧
        later.bytes[0 + 0 * 64]? = some 0 := by
  have binary : oneLit.Binary := binary_ofFrame (Frame.blank.draw 62 31 [0x80])
  rcases draw_place_by_place binary reaching false with
    ⟨erased, later, ran, places, erases, _, _, _, _⟩
  have lit : oneLit.bytes[62 + 31 * 64]? = some 1 :=
    (getElem?_ofFrame _ (by decide) (by decide)).trans (by decide +kernel)
  have dark : oneLit.bytes[63 + 31 * 64]? = some 0 :=
    (getElem?_ofFrame _ (by decide) (by decide)).trans (by decide +kernel)
  have darkStart : oneLit.bytes[0 + 0 * 64]? = some 0 :=
    (getElem?_ofFrame _ (by decide) (by decide)).trans (by decide +kernel)
  have corner := places 62 (by decide) 31 (by decide)
  have beside := places 63 (by decide) 31 (by decide)
  have start := places 0 (by decide) 0 (by decide)
  rw [if_pos (by decide), lit] at corner
  rw [if_pos (by decide), dark] at beside
  rw [if_neg (by decide), darkStart] at start
  have erasing : erased = true := erases.mpr ⟨62 + 31 * 64, lit, corner⟩
  rw [erasing] at ran
  exact ⟨binary, later, ran, corner, beside, start⟩

end Cells

end ChipEight
