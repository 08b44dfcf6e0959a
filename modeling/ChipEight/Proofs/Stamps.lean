import ChipEight.Proofs.Cells

/-!
# Sprites in any order

Many sprites drawn one after the other.  Drawing turns pixels over, and which ones it turns over
does not depend on the picture.  So the order of the sprites does not matter, a sprite drawn twice
in one place leaves no trace, and of a list of sprites only the parity of each counts.

A stamp is a sprite with the place where it is drawn.  The laws are proved for frames through their
pixels; for a picture held as bytes they follow as long as every byte is zero or one.
-/

namespace ChipEight

/-- A sprite and where it is drawn. -/
structure Stamp where
  x : Nat
  y : Nat
  sprite : List UInt8
deriving DecidableEq

/--
A set bit of the sprite falls on this pixel.  The places of the bits count from the left and the
lines from the top; a bit that would lie past the right or the bottom edge falls on no pixel.
-/
def Stamp.Shows (stamp : Stamp) (column row : Nat) : Prop :=
  ∃ line place,
    column = stamp.x % Frame.width + place ∧ row = stamp.y % Frame.height + line ∧
      column < Frame.width ∧ row < Frame.height ∧ place < 8 ∧
        ∃ byte, stamp.sprite[line]? = some byte ∧ byte.toNat.testBit (7 - place) = true

theorem Micro.getElem?_bits (byte : UInt8) {place : Nat} (inside : place < 8) :
    (Micro.bits byte)[place]? = some (byte.toNat.testBit (7 - place)) := by
  simp [Micro.bits, inside, BitVec.getMsbD, BitVec.getLsbD]

/-- A stamp shows a place of the screen if the checked program turns it. -/
theorem Stamp.shows_iff (stamp : Stamp) (column row : Nat) :
    stamp.Shows column row ↔
      column < Frame.width ∧ row < Frame.height ∧
        Micro.coversPixel (stamp.x % Frame.width) (stamp.y % Frame.height) stamp.sprite column row =
          true := by
  constructor
  · rintro ⟨line, place, rfl, rfl, columnInside, rowInside, inside, byte, found, bit⟩
    refine ⟨columnInside, rowInside, ?_⟩
    simp [Micro.coversPixel, Micro.covers, found, Micro.getElem?_bits byte inside, bit]
  · rintro ⟨columnInside, rowInside, covered⟩
    simp only [Micro.coversPixel, Bool.and_eq_true, decide_eq_true_eq] at covered
    rcases covered with ⟨below, covered⟩
    split at covered
    case h_2 => cases covered
    case h_1 byte found =>
      simp only [Micro.covers, Bool.and_eq_true, decide_eq_true_eq] at covered
      rcases covered with ⟨right, bit⟩
      have inside : column - stamp.x % Frame.width < 8 := by
        refine Nat.lt_of_not_le fun outside => ?_
        rw [List.getElem?_eq_none (by simpa [Micro.bits] using outside)] at bit
        cases bit
      rw [Micro.getElem?_bits byte inside] at bit
      exact ⟨row - stamp.y % Frame.height, column - stamp.x % Frame.width,
        (Nat.add_sub_of_le right).symm, (Nat.add_sub_of_le below).symm, columnInside, rowInside,
        inside, byte, found, bit⟩

/-! ## Frames -/

namespace Frame

/-- The frame after the stamps are drawn on it in order. -/
def drawAll (stamps : List Stamp) (frame : Frame) : Frame :=
  stamps.foldl (fun frame stamp => frame.draw stamp.x stamp.y stamp.sprite) frame

/-- For each of the stamps, drawn in order, whether it turned a lit pixel off. -/
def collisions : List Stamp → Frame → List Bool
  | [], _ => []
  | stamp :: rest, frame =>
      frame.collides stamp.x stamp.y stamp.sprite ::
        (frame.draw stamp.x stamp.y stamp.sprite).collisions rest

@[simp]
theorem drawAll_nil (frame : Frame) : frame.drawAll [] = frame :=
  rfl

@[simp]
theorem drawAll_cons (stamp : Stamp) (rest : List Stamp) (frame : Frame) :
    frame.drawAll (stamp :: rest) = (frame.draw stamp.x stamp.y stamp.sprite).drawAll rest := by
  simp only [drawAll, List.foldl_cons]

theorem drawAll_append (first second : List Stamp) (frame : Frame) :
    frame.drawAll (first ++ second) = (frame.drawAll first).drawAll second := by
  simp [drawAll]

/-- Two sprites may change places. -/
theorem draw_comm (first second : Stamp) (frame : Frame) :
    (frame.draw first.x first.y first.sprite).draw second.x second.y second.sprite =
      (frame.draw second.x second.y second.sprite).draw first.x first.y first.sprite := by
  refine ext_pixel fun row inside column _ => ?_
  simp only [pixel_draw _ _ _ _ _ inside]
  exact Bool.xor_right_comm _ _ _

/-- A sprite drawn twice in one place leaves the frame as it was. -/
@[simp]
theorem draw_draw (x y : Nat) (sprite : List UInt8) (frame : Frame) :
    (frame.draw x y sprite).draw x y sprite = frame := by
  refine ext_pixel fun row inside column _ => ?_
  simp [pixel_draw _ _ _ _ _ inside]

theorem drawAll_perm
    {stamps other : List Stamp} (reordered : stamps.Perm other) (frame : Frame) :
    frame.drawAll stamps = frame.drawAll other :=
  reordered.foldl_eq' (fun first _ second _ frame => draw_comm first second frame) frame

/-- Two copies of a stamp cancel, wherever they stand. -/
theorem drawAll_cancel (before between after : List Stamp) (stamp : Stamp) (frame : Frame) :
    frame.drawAll (before ++ stamp :: between ++ stamp :: after) =
      frame.drawAll (before ++ between ++ after) := by
  have first : (before ++ stamp :: between).Perm (stamp :: (before ++ between)) :=
    List.perm_middle
  have together : (before ++ stamp :: between ++ stamp :: after).Perm
      (stamp :: stamp :: (before ++ between ++ after)) :=
    List.perm_middle.trans ((first.append_right after).cons stamp)
  rw [drawAll_perm together, drawAll_cons, drawAll_cons, draw_draw]

/-- Stamps that each occur an even number of times leave the frame as it was. Of the first one there
is another copy, and without the two the counts are even again. -/
theorem drawAll_of_even
    (stamps : List Stamp) (even : ∀ stamp, stamps.count stamp % 2 = 0) (frame : Frame) :
    frame.drawAll stamps = frame := by
  induction size : stamps.length using Nat.strongRecOn generalizing stamps with
  | ind size step =>
      cases stamps with
      | nil => rfl
      | cons stamp rest =>
          have again : stamp ∈ rest := by
            have pair := even stamp
            rw [List.count_cons_self] at pair
            exact List.count_pos_iff.mp (by omega)
          have together : (stamp :: rest).Perm (stamp :: stamp :: rest.erase stamp) :=
            (List.perm_cons_erase again).cons stamp
          rw [drawAll_perm together, drawAll_cons, drawAll_cons, draw_draw]
          refine step (rest.erase stamp).length ?_ (rest.erase stamp) ?_ rfl
          · have shorter := List.length_erase_of_mem again
            simp only [List.length_cons] at size
            omega
          · intro other
            have pair := even other
            rw [together.count_eq, List.count_cons, List.count_cons] at pair
            split at pair <;> omega

/-- Of a list of stamps only the parity of each counts. -/
theorem drawAll_of_parity
    {stamps other : List Stamp}
    (parity : ∀ stamp, stamps.count stamp % 2 = other.count stamp % 2) (frame : Frame) :
    frame.drawAll stamps = frame.drawAll other := by
  have both : ∀ stamp, (stamps ++ other).count stamp % 2 = 0 := by
    intro stamp
    have same := parity stamp
    rw [List.count_append]
    omega
  have twice : ∀ stamp, (other ++ other).count stamp % 2 = 0 := by
    intro stamp
    rw [List.count_append]
    omega
  calc
    frame.drawAll stamps = (frame.drawAll stamps).drawAll (other ++ other) :=
      (drawAll_of_even _ twice _).symm
    _ = (frame.drawAll (stamps ++ other)).drawAll other := by
      rw [drawAll_append, drawAll_append]
    _ = frame.drawAll other := by rw [drawAll_of_even _ both]

/-! ## Collisions -/

theorem collides_iff (stamp : Stamp) (frame : Frame) :
    frame.collides stamp.x stamp.y stamp.sprite = true ↔
      ∃ column row, stamp.Shows column row ∧ frame.pixel column row = true := by
  rw [Micro.collides_eq_true_iff]
  constructor
  · rintro ⟨row, rowInside, column, columnInside, covered, lit⟩
    exact ⟨column, row, (stamp.shows_iff column row).mpr ⟨columnInside, rowInside, covered⟩, lit⟩
  · rintro ⟨column, row, shows, lit⟩
    rcases (stamp.shows_iff column row).mp shows with ⟨columnInside, rowInside, covered⟩
    exact ⟨row, rowInside, column, columnInside, covered, lit⟩

theorem pixel_draw_of_shows
    {stamp : Stamp} {column row : Nat} (shows : stamp.Shows column row) (frame : Frame) :
    (frame.draw stamp.x stamp.y stamp.sprite).pixel column row = !frame.pixel column row := by
  rcases (stamp.shows_iff column row).mp shows with ⟨columnInside, rowInside, covered⟩
  rw [pixel_draw _ _ _ _ _ rowInside, Micro.getMsbD_spriteRow _ _ _ _ columnInside, covered,
    Bool.xor_true]

/-- Drawn again, a sprite collides where it lit a pixel. -/
theorem collides_draw_iff (stamp : Stamp) (frame : Frame) :
    (frame.draw stamp.x stamp.y stamp.sprite).collides stamp.x stamp.y stamp.sprite = true ↔
      ∃ column row, stamp.Shows column row ∧ frame.pixel column row = false := by
  rw [collides_iff]
  constructor
  · rintro ⟨column, row, shows, lit⟩
    rw [pixel_draw_of_shows shows, Bool.not_eq_true'] at lit
    exact ⟨column, row, shows, lit⟩
  · rintro ⟨column, row, shows, dark⟩
    refine ⟨column, row, shows, ?_⟩
    rw [pixel_draw_of_shows shows, dark, Bool.not_false]

/-- Of two draws of one sprite some collides exactly if the sprite shows at all. -/
theorem collides_or_collides_draw_iff (stamp : Stamp) (frame : Frame) :
    (frame.collides stamp.x stamp.y stamp.sprite = true ∨
        (frame.draw stamp.x stamp.y stamp.sprite).collides stamp.x stamp.y stamp.sprite = true) ↔
      ∃ column row, stamp.Shows column row := by
  rw [collides_iff, collides_draw_iff]
  constructor
  · rintro (⟨column, row, shows, _⟩ | ⟨column, row, shows, _⟩)
    · exact ⟨column, row, shows⟩
    · exact ⟨column, row, shows⟩
  · rintro ⟨column, row, shows⟩
    cases lit : frame.pixel column row with
    | true => exact Or.inl ⟨column, row, shows, lit⟩
    | false => exact Or.inr ⟨column, row, shows, lit⟩

/-- The frame with given pixels lit. -/
def tabulate (lit : Nat → Nat → Bool) : Frame :=
  ⟨Vector.ofFn fun row : Fin height =>
    (BitVec.ofBoolListBE ((List.range width).map fun column => lit column row)).cast (by simp)⟩

theorem pixel_tabulate
    (lit : Nat → Nat → Bool) {column row : Nat} (columnInside : column < width)
    (rowInside : row < height) : (tabulate lit).pixel column row = lit column row := by
  rw [pixel_eq _ _ rowInside]
  simp [tabulate, columnInside]

end Frame

/-! ## Bytes -/

namespace Cells

/-- Every byte is that of a pixel. -/
def Binary (cells : Cells) : Prop :=
  ∀ byte ∈ cells.bytes, byte = 0 ∨ byte = 1

/-- The frame whose pixels are lit where the bytes are one. -/
def toFrame (cells : Cells) : Frame :=
  Frame.tabulate fun column row => cells.isLit (column + row * Frame.width)

theorem binary_ofFrame (frame : Frame) : (ofFrame frame).Binary := by
  intro byte member
  rcases Vector.getElem_of_mem member with ⟨cell, inside, rfl⟩
  rw [getElem_ofFrame frame inside]
  cases frame.pixel (cell % Frame.width) (cell / Frame.width) with
  | false => exact Or.inl rfl
  | true => exact Or.inr rfl

/-- Cells of zeros and ones are those of their picture. -/
theorem ofFrame_toFrame {cells : Cells} (binary : cells.Binary) :
    ofFrame cells.toFrame = cells := by
  refine ext_bytes fun cell inside => ?_
  have column : cell % Frame.width < Frame.width := Nat.mod_lt _ (by decide)
  have row : cell / Frame.width < Frame.height := by
    simp only [Frame.width, Frame.height]
    omega
  have place : cell % Frame.width + cell / Frame.width * Frame.width = cell := by
    simp only [Frame.width]
    omega
  have lit : cells.isLit cell = (cells.bytes[cell] == 1) := by
    simp [isLit, inside]
  rw [getElem_ofFrame _ inside, toFrame, Frame.pixel_tabulate _ column row, place, lit]
  rcases binary cells.bytes[cell] (Vector.getElem_mem inside) with zero | one
  · rw [zero]
    rfl
  · rw [one]
    rfl

/-- A place is dark in the picture exactly if its cell is zero. -/
theorem pixel_toFrame_eq_false_iff
    {cells : Cells} (binary : cells.Binary) {column row : Nat}
    (columnInside : column < Frame.width) (rowInside : row < Frame.height) :
    cells.toFrame.pixel column row = false ↔
      cells.bytes[column + row * Frame.width]? = some 0 := by
  have inside : column + row * Frame.width < 2048 := Micro.cell_lt columnInside rowInside
  rw [toFrame, Frame.pixel_tabulate _ columnInside rowInside, isLit,
    Vector.getElem?_eq_getElem inside]
  rcases binary _ (Vector.getElem_mem inside) with zero | one
  · simp [zero]
  · simp [one]

/-- Draw the stamps in order and tell for each whether it flipped a lit cell. -/
def drawAll (stamps : List Stamp) : StateM Cells (List Bool) :=
  stamps.mapM fun stamp => drawSprite stamp.x stamp.y stamp.sprite

/-- Drawing on the cells of a frame draws on the frame. Any machine will do whose screen shows it.
-/
theorem run_drawSprite_ofFrame (x y : Nat) (sprite : List UInt8) (frame : Frame) :
    (drawSprite x y sprite).run (ofFrame frame) =
      pure (frame.collides x y sprite, ofFrame (frame.draw x y sprite)) :=
  run_drawSprite x y sprite (Micro.showing (Machine.start #[] (Random.ofSeed 0)) frame)

/-- On the bytes of a frame the stamps do what they do with the frame. -/
theorem run_drawAll (stamps : List Stamp) (frame : Frame) :
    (drawAll stamps).run (ofFrame frame) =
      pure (frame.collisions stamps, ofFrame (frame.drawAll stamps)) := by
  induction stamps generalizing frame with
  | nil => rfl
  | cons stamp rest later =>
      rw [drawAll] at later ⊢
      simp only [List.mapM_cons, StateT.run_bind, run_drawSprite_ofFrame, pure_bind, later,
        StateT.run_pure, Frame.collisions, Frame.drawAll_cons]

/--
Drawing is commutative and its own inverse.  On any bytes that are zero or one, drawing sprites byte
by byte comes to the frame and the collisions that the screen would have.  The frame is the same for
every order of the sprites and without any two equal ones, so that only the parity of each counts.
A sprite drawn twice leaves the bytes as they were; one of the two draws collides exactly if a set
bit of the sprite shows, and the second one exactly if such a bit falls on a pixel that was dark.
-/
theorem drawAll_laws {cells : Cells} (binary : cells.Binary) :
    (∀ stamps, (drawAll stamps).run cells =
        pure (cells.toFrame.collisions stamps, ofFrame (cells.toFrame.drawAll stamps))) ∧
      (∀ stamps other : List Stamp, stamps.Perm other →
        cells.toFrame.drawAll stamps = cells.toFrame.drawAll other) ∧
      (∀ (before between after : List Stamp) (stamp : Stamp),
        cells.toFrame.drawAll (before ++ stamp :: between ++ stamp :: after) =
          cells.toFrame.drawAll (before ++ between ++ after)) ∧
      (∀ stamps other : List Stamp,
        (∀ stamp, stamps.count stamp % 2 = other.count stamp % 2) →
          cells.toFrame.drawAll stamps = cells.toFrame.drawAll other) ∧
      ∀ stamp : Stamp, ∃ first second,
        (drawAll [stamp, stamp]).run cells = pure ([first, second], cells) ∧
          (first = true ∨ second = true ↔ ∃ column row, stamp.Shows column row) ∧
          (second = true ↔ ∃ column row,
            stamp.Shows column row ∧ cells.bytes[column + row * Frame.width]? = some 0) := by
  have same : ofFrame cells.toFrame = cells := ofFrame_toFrame binary
  have runs (stamps : List Stamp) : (drawAll stamps).run cells =
      pure (cells.toFrame.collisions stamps, ofFrame (cells.toFrame.drawAll stamps)) := by
    have run := run_drawAll stamps cells.toFrame
    rwa [same] at run
  refine ⟨runs, ?_, ?_, ?_, ?_⟩
  · intro stamps other reordered
    exact Frame.drawAll_perm reordered cells.toFrame
  · intro before between after stamp
    exact Frame.drawAll_cancel before between after stamp cells.toFrame
  · intro stamps other parity
    exact Frame.drawAll_of_parity parity cells.toFrame
  · intro stamp
    refine ⟨_, _, ?_, Frame.collides_or_collides_draw_iff stamp cells.toFrame, ?_⟩
    · rw [runs]
      simp only [Frame.collisions, Frame.drawAll_cons, Frame.drawAll_nil, Frame.draw_draw, same]
    · rw [Frame.collides_draw_iff]
      refine exists_congr fun column => exists_congr fun row => and_congr_right fun shows => ?_
      rcases (stamp.shows_iff column row).mp shows with ⟨columnInside, rowInside, _⟩
      exact pixel_toFrame_eq_false_iff binary columnInside rowInside

/-- A sprite clipped at both edges, of which two bits show. -/
def clipped : Stamp :=
  ⟨62, 63, [0xE0, 0xFF]⟩

/-- The bytes of a picture with one lit pixel, on which the first of the two bits falls. -/
def oneLit : Cells :=
  ofFrame (Frame.blank.draw 62 31 [0x80])

/-- A stamp at the corner is clipped, and drawn twice it cancels out and collides. -/
theorem drawAll_laws_clipped :
    oneLit.Binary ∧
      oneLit.toFrame.drawAll [clipped, ⟨0, 0, [0x3C]⟩, clipped] =
        oneLit.toFrame.drawAll [⟨0, 0, [0x3C]⟩] ∧
      ∃ first, (drawAll [clipped, clipped]).run oneLit = pure ([first, true], oneLit) := by
  have binary : oneLit.Binary := binary_ofFrame _
  rcases drawAll_laws binary with ⟨_, _, cancel, _, twice⟩
  rcases twice clipped with ⟨first, second, ran, _, collides⟩
  have shows : clipped.Shows 63 31 :=
    ⟨0, 1, rfl, rfl, by decide, by decide, by decide, 0xE0, rfl, by decide⟩
  have dark : oneLit.bytes[63 + 31 * Frame.width]? = some 0 := by
    have inside : 63 + 31 * Frame.width < 2048 := by decide
    rw [Vector.getElem?_eq_getElem inside, oneLit, getElem_ofFrame _ inside]
    decide +kernel
  rw [collides.mpr ⟨63, 31, shows, dark⟩] at ran
  exact ⟨binary, cancel [] [⟨0, 0, [0x3C]⟩] [] clipped, first, ran⟩

end Cells

end ChipEight
