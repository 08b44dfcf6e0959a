/-!
# Frames and the screen

A frame is the picture on the screen: thirty-two rows of sixty-four pixels, each lit or dark.  A
row is a word whose most significant bit is the leftmost pixel.

A sprite is a list of bytes, one a row of eight pixels.  Drawing flips the pixels its set bits
cover.  The origin is reduced modulo the size of the screen; what then lies past the right or
the bottom edge is clipped.  `pixel` is the view through which drawing is described: see
`pixel_draw`.

The screen is a frame together with a flag that asks for it to be shown.  Every operation that
may change the frame sets the flag, and the host reads and clears it.
-/

namespace ChipEight

/-- The picture on the screen, row by row from the top. -/
structure Frame where
  rows : Vector (BitVec 64) 32
deriving DecidableEq

namespace Frame

abbrev width : Nat := 64

abbrev height : Nat := 32

def blank : Frame :=
  ⟨Vector.replicate height 0⟩

/-- Whether the pixel in a column and a row is lit; outside the frame nothing is. -/
def pixel (frame : Frame) (column row : Nat) : Bool :=
  (frame.rows[row]?.getD 0).getMsbD column

/-- Eight pixels whose first stands in the given column, the others clipped at the edge. -/
def stripe (column : Nat) (byte : UInt8) : BitVec 64 :=
  (byte.toBitVec.setWidth 64 <<< 56) >>> column

/-- The pixels of one row that a sprite with its origin at `(x, y)` covers. -/
def spriteRow (x y : Nat) (sprite : List UInt8) (row : Nat) : BitVec 64 :=
  if y % height ≤ row then
    match sprite[row - y % height]? with
    | some byte => stripe (x % width) byte
    | none => 0
  else 0

/-- The frame with the pixels of a sprite flipped. -/
def draw (x y : Nat) (sprite : List UInt8) (frame : Frame) : Frame :=
  ⟨Vector.ofFn fun row : Fin height => frame.rows[row] ^^^ spriteRow x y sprite row⟩

/-- Whether a sprite covers a pixel that is lit, which drawing it would turn off. -/
def collides (x y : Nat) (sprite : List UInt8) (frame : Frame) : Bool :=
  (List.finRange height).any fun row => frame.rows[row] &&& spriteRow x y sprite row != 0

/-- A row as text: `X` for a lit pixel and a space for a dark one, ended by a line feed. -/
def rowText (row : BitVec 64) : List Char :=
  ((List.range width).map fun column => if row.getMsbD column then 'X' else ' ') ++ ['\n']

def text (frame : Frame) : String :=
  String.ofList (frame.rows.toList.flatMap rowText)

@[simp]
theorem pixel_blank (column row : Nat) : blank.pixel column row = false := by
  by_cases inside : row < 32 <;> simp [pixel, blank, inside]

/-- Pixels of a row are its bits from the left; beyond the last column there are none. -/
theorem pixel_eq
    (frame : Frame) (column : Nat) {row : Nat} (inside : row < height) :
    frame.pixel column row = frame.rows[row].getMsbD column := by
  simp [pixel, inside]

/-- Outside the frame no pixel is lit. -/
theorem pixel_outside
    (frame : Frame) {column row : Nat} (outside : width ≤ column ∨ height ≤ row) :
    frame.pixel column row = false := by
  cases outside with
  | inl right => exact BitVec.getMsbD_of_ge _ _ right
  | inr below => simp [pixel, Nat.not_lt.mpr below]

/-- Drawing changes each pixel by the sprite's own pixel there. -/
theorem pixel_draw
    (x y : Nat) (sprite : List UInt8) (frame : Frame) (column : Nat)
    {row : Nat} (inside : row < height) :
    (frame.draw x y sprite).pixel column row =
      (frame.pixel column row ^^ (spriteRow x y sprite row).getMsbD column) := by
  rw [pixel_eq _ _ inside, pixel_eq _ _ inside]
  simp [draw]

/-- A frame is determined by which of its pixels are lit. -/
theorem ext_pixel
    {first second : Frame}
    (same : ∀ row < height, ∀ column < width, first.pixel column row = second.pixel column row) :
    first = second := by
  cases first
  cases second
  congr 1
  refine Vector.ext fun row inside => BitVec.eq_of_getMsbD_eq fun column within => ?_
  simpa only [pixel_eq _ _ inside] using same row inside column within

end Frame

/-- A frame and whether it waits to be shown. -/
structure Screen where
  frame : Frame
  redraw : Bool
deriving DecidableEq

namespace Screen

/-- A dark screen that nobody asked to show. -/
def dark : Screen :=
  ⟨Frame.blank, false⟩

def requestRedraw (screen : Screen) : Screen :=
  { screen with redraw := true }

def clear (_screen : Screen) : Screen :=
  ⟨Frame.blank, true⟩

def draw (x y : Nat) (sprite : List UInt8) (screen : Screen) : Screen :=
  ⟨screen.frame.draw x y sprite, true⟩

def takeRedraw (screen : Screen) : Screen :=
  { screen with redraw := false }

end Screen

end ChipEight
