import ChipEight.Word

/-!
# The keypad

Sixteen keys, numbered `0` to `F`, each up or down.  The host writes the keypad between steps
and the machine reads it.  A key may be named by any byte, of which the low nibble counts.  The
state of all keys travels as a mask of sixteen bits, bit `n` for key `n`.

`first?` is the lowest key that is down; `mask` and `ofMask` translate between the keys and
their mask.
-/

namespace ChipEight

abbrev Key := Nibble

/-- The key a byte names: its low nibble. -/
def Key.ofByte (byte : UInt8) : Key :=
  Nibble.ofNat byte.toNat

structure Keypad where
  keys : Vector Bool 16
deriving DecidableEq

namespace Keypad

def released : Keypad :=
  ⟨Vector.replicate 16 false⟩

def isDown (keypad : Keypad) (key : Key) : Bool :=
  keypad.keys[key]

def assign (keypad : Keypad) (key : Key) (down : Bool) : Keypad :=
  ⟨keypad.keys.set key down⟩

def first? (keypad : Keypad) : Option Key :=
  (List.finRange 16).find? keypad.isDown

/-- The mask of the keys that are down: a binary number whose last digit is key `0`. -/
def mask (keypad : Keypad) : UInt16 :=
  UInt16.ofNat ((List.finRange 16).foldr
    (fun key digits => 2 * digits + (keypad.isDown key).toNat) 0)

/-- The keypad whose keys are down as the bits of a mask are set. -/
def ofMask (bits : UInt16) : Keypad :=
  ⟨Vector.ofFn fun key : Key => bits.toNat.testBit key⟩

@[simp]
theorem isDown_assign
    (keypad : Keypad) (key other : Key) (down : Bool) :
    (keypad.assign key down).isDown other =
      if key = other then down else keypad.isDown other := by
  simp [isDown, assign, Vector.getElem_set, Fin.ext_iff]

@[simp]
theorem isDown_released (key : Key) : released.isDown key = false := by
  simp [isDown, released]

/-- A key is down in a mask exactly when the bit of its number is set. -/
@[simp]
theorem isDown_ofMask (bits : UInt16) (key : Key) :
    (ofMask bits).isDown key = bits.toNat.testBit key := by
  simp [isDown, ofMask]

/-- A keypad is determined by which of its keys are down. -/
theorem ext_isDown
    {first second : Keypad}
    (same : ∀ key, first.isDown key = second.isDown key) :
    first = second := by
  cases first
  cases second
  congr 1
  exact Vector.ext fun index bound => same ⟨index, bound⟩

/-- What the host may do to the keypad. -/
inductive Change where
  | press (key : UInt8)
  | release (key : UInt8)
  | set (key : UInt8) (down : Bool)
  | assign (key : Key) (down : Bool)
  | clear
  | replace (bits : UInt16)
deriving DecidableEq

def apply (keypad : Keypad) : Change → Keypad
  | .press key => keypad.assign (Key.ofByte key) true
  | .release key => keypad.assign (Key.ofByte key) false
  | .set key down => keypad.assign (Key.ofByte key) down
  | .assign key down => keypad.assign key down
  | .clear => released
  | .replace bits => ofMask bits

end Keypad

end ChipEight
