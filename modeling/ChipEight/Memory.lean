import ChipEight.Word

/-!
# Memory

Four kilobytes of bytes, read and written one address at a time.  Reading outside memory gives
zero and writing there does nothing; the machine checks a whole transfer before it starts one,
so neither happens in a run.

`read` is the only view of a memory.  Every way to make or change one is described by what it
reads afterwards: `read_tabulate`, `read_write`, `read_writeAll` and `read_image`.

The lowest memory holds the font: pictures of the sixteen hexadecimal digits, each five bytes
high.
-/

namespace ChipEight

structure Memory where
  bytes : Vector UInt8 4096
deriving DecidableEq

namespace Memory

abbrev size : Nat := 4096

/-- The address where programs start. -/
abbrev programStart : Nat := 0x200

/-- The longest program that fits above its start. -/
abbrev programCapacity : Nat := size - programStart

abbrev glyphSize : Nat := 5

/-- The pictures of the digits `0` to `F`, in order. -/
def font : List UInt8 :=
  [0xF0, 0x90, 0x90, 0x90, 0xF0,
    0x20, 0x60, 0x20, 0x20, 0x70,
    0xF0, 0x10, 0xF0, 0x80, 0xF0,
    0xF0, 0x10, 0xF0, 0x10, 0xF0,
    0x90, 0x90, 0xF0, 0x10, 0x10,
    0xF0, 0x80, 0xF0, 0x10, 0xF0,
    0xF0, 0x80, 0xF0, 0x90, 0xF0,
    0xF0, 0x10, 0x20, 0x40, 0x40,
    0xF0, 0x90, 0xF0, 0x90, 0xF0,
    0xF0, 0x90, 0xF0, 0x10, 0xF0,
    0xF0, 0x90, 0xF0, 0x90, 0x90,
    0xE0, 0x90, 0xE0, 0x90, 0xE0,
    0xF0, 0x80, 0x80, 0x80, 0xF0,
    0xE0, 0x90, 0x90, 0x90, 0xE0,
    0xF0, 0x80, 0xF0, 0x80, 0xF0,
    0xF0, 0x80, 0xF0, 0x80, 0x80]

theorem length_font : font.length = 16 * glyphSize :=
  rfl

def read (memory : Memory) (address : Nat) : UInt8 :=
  memory.bytes[address]?.getD 0

def write (memory : Memory) (address : Nat) (byte : UInt8) : Memory :=
  ⟨memory.bytes.setIfInBounds address byte⟩

/-- Replace the bytes from an address on. -/
def writeAll (memory : Memory) (address : Nat) : List UInt8 → Memory
  | [] => memory
  | byte :: rest => (memory.write address byte).writeAll (address + 1) rest

/-- The bytes from an address on. -/
def slice (memory : Memory) (address length : Nat) : List UInt8 :=
  (List.range length).map fun offset => memory.read (address + offset)

/-- The memory that holds a given byte at each address. -/
def tabulate (byteAt : Nat → UInt8) : Memory :=
  ⟨⟨((List.range size).map byteAt).toArray, by simp⟩⟩

/-- The font at the bottom, a program at its start, and zero everywhere else. -/
def image (program : Array UInt8) : Memory :=
  tabulate fun address =>
    if address < programStart then font[address]?.getD 0
    else program[address - programStart]?.getD 0

def glyphAddress (digit : Nibble) : UInt16 :=
  UInt16.ofNat (digit.val * glyphSize)

/-! ## What is read afterwards -/

@[simp]
theorem read_tabulate (byteAt : Nat → UInt8) (address : Nat) :
    (tabulate byteAt).read address = if address < size then byteAt address else 0 := by
  by_cases inside : address < size
  · simp [read, tabulate, inside]
  · simp [read, tabulate, inside]

/-- A write changes one byte, and none if its address lies beyond memory. -/
theorem read_write
    (memory : Memory) (address other : Nat) (byte : UInt8) :
    (memory.write address byte).read other =
      if address = other ∧ address < size then byte else memory.read other := by
  by_cases same : address = other
  · subst same
    by_cases inside : address < size <;> simp [read, write, inside]
  · simp [read, write, same, Vector.getElem?_setIfInBounds_ne]

/-- A transfer changes the bytes that it covers, as far as memory goes. -/
theorem read_writeAll
    (memory : Memory) (address other : Nat) (bytes : List UInt8) :
    (memory.writeAll address bytes).read other =
      if address ≤ other ∧ other < address + bytes.length ∧ other < size then
        bytes[other - address]?.getD 0
      else memory.read other := by
  induction bytes generalizing memory address with
  | nil =>
      have empty : ¬ (address ≤ other ∧ other < address ∧ other < size) := by omega
      simp [writeAll, empty]
  | cons byte rest step =>
      rw [writeAll, step, read_write]
      by_cases here : address = other
      · subst here
        have past : ¬ address + 1 ≤ address := by omega
        by_cases inside : address < size <;> simp [inside, past]
      · by_cases later : address + 1 ≤ other
        · obtain ⟨offset, rfl⟩ := Nat.exists_eq_add_of_le later
          have index : address + 1 + offset - address = offset + 1 := by omega
          have start : address ≤ address + 1 + offset := by omega
          have reach :
              address + 1 + offset < address + 1 + rest.length ↔
                address + 1 + offset < address + (rest.length + 1) := by omega
          simp [here, index, start, reach]
        · have before : ¬ address ≤ other := by omega
          simp [here, later, before]

@[simp]
theorem length_slice (memory : Memory) (address length : Nat) :
    (memory.slice address length).length = length := by
  simp [slice]

/-- The font, a gap of zeros up to the start of programs, the program, and zeros again. -/
@[simp]
theorem read_image (program : Array UInt8) (address : Nat) :
    (image program).read address =
      if address < programStart then font[address]?.getD 0
      else if address < size then program[address - programStart]?.getD 0
      else 0 := by
  by_cases low : address < programStart
  · have inside : address < size := by
      simp only [programStart, size] at low ⊢
      omega
    simp [image, low, inside]
  · simp [image, low]

/-- A memory is determined by what is read from its addresses. -/
theorem ext_read
    {first second : Memory}
    (same : ∀ address < size, first.read address = second.read address) :
    first = second := by
  cases first
  cases second
  congr 1
  refine Vector.ext fun index bound => ?_
  simpa [read, bound] using same index bound

end Memory

end ChipEight
