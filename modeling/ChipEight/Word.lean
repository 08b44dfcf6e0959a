import ChipEight.Text

/-!
# Nibbles and instruction words

A nibble is half a byte: one hexadecimal digit.  Numbers of registers and keys are nibbles, and
so are the fields of an instruction word.

An instruction is a word of sixteen bits.  Its four digits are, from the left, the category and
the fields `x`, `y` and `n`; the last two digits together are the byte `nn` and the last three the
address `nnn`.
-/

namespace ChipEight

/-- One of the sixteen values of a hexadecimal digit. -/
abbrev Nibble := Fin 16

def Nibble.ofNat (number : Nat) : Nibble :=
  ⟨number % 16, Nat.mod_lt _ (by decide)⟩

@[simp]
theorem Nibble.val_ofNat (number : Nat) : (Nibble.ofNat number).val = number % 16 :=
  rfl

abbrev Address := Fin 4096

/-- The number of one of the sixteen registers. -/
abbrev Register := Nibble

def Address.toUInt16 (address : Address) : UInt16 :=
  UInt16.ofNatLT address.val (Nat.lt_trans address.isLt (by decide))

/-- Sixteen bits that may encode an instruction. -/
structure Word where
  bits : UInt16
deriving DecidableEq

namespace Word

/-- The word of two bytes, the high byte first. -/
def ofBytes (high low : UInt8) : Word :=
  ⟨UInt16.ofNat (high.toNat * 0x100 + low.toNat)⟩

/-- The first digit, which selects a group of instructions. -/
def category (word : Word) : Nibble :=
  Nibble.ofNat (word.bits.toNat / 0x1000)

/-- The second digit, most often a register. -/
def x (word : Word) : Nibble :=
  Nibble.ofNat (word.bits.toNat / 0x100)

/-- The third digit, most often a register. -/
def y (word : Word) : Nibble :=
  Nibble.ofNat (word.bits.toNat / 0x10)

def n (word : Word) : Nibble :=
  Nibble.ofNat word.bits.toNat

/-- The last two digits, a byte. -/
def nn (word : Word) : UInt8 :=
  UInt8.ofNat word.bits.toNat

/-- The last three digits, an address. -/
def nnn (word : Word) : Address :=
  ⟨word.bits.toNat % 4096, Nat.mod_lt _ (by decide)⟩

def text (word : Word) : String :=
  String.ofList (Text.Hex.upper 4 word.bits.toNat)

/-! ## Digits shared between fields -/

theorem val_y_eq (word : Word) : word.y.val = word.nn.toNat / 16 := by
  simp only [nn, y, Nibble.val_ofNat, UInt8.toNat_ofNat']
  omega

theorem val_n_eq (word : Word) : word.n.val = word.nn.toNat % 16 := by
  simp only [nn, n, Nibble.val_ofNat, UInt8.toNat_ofNat']
  omega

theorem val_x_eq (word : Word) : word.x.val = word.nnn.val / 256 := by
  simp only [nnn, x, Nibble.val_ofNat]
  omega

/-- The last byte of a word is its address without the field `x`. -/
theorem toNat_nn_eq (word : Word) : word.nn.toNat = word.nnn.val % 256 := by
  simp only [nnn, nn, UInt8.toNat_ofNat']
  omega

end Word

end ChipEight
