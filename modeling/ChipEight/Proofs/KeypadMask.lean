import ChipEight.Proofs.Loop.Turn
import Mathlib.Data.Nat.Bitwise

/-!
# The keypad as a mask

The keypad holds one truth value for each key, and its state travels as a word of sixteen bits.
Every change that a host can make to the keypad is an operation on the bits of that word, and after
any number of changes the keypad answers as the word does: `Refines` says so key by key, and each
change keeps it.  The mask of a keypad is then the word itself, so a keypad that is sent as a mask
arrives as it was, whatever the receiving one held.

The mask can also be gathered by setting one bit after the other, and spread by writing one key
after the other over those that were there; both come to the same as `mask` and `ofMask`.
-/

namespace ChipEight

namespace Keypad

/-! ## Bits of a mask -/

/-- The mask with one bit. -/
def bit (number : Nat) : UInt16 :=
  1 <<< UInt16.ofNat number

/-- The mask with one bit set or cleared. -/
def assignBit (bits : UInt16) (number : Nat) (down : Bool) : UInt16 :=
  if down then bits ||| bit number else bits &&& ~~~bit number

theorem toBitVec_bit (key : Key) : (bit key.val).toBitVec = BitVec.twoPow 16 key.val := by
  revert key
  decide

theorem testBit_bit (key other : Key) :
    (bit key.val).toNat.testBit other.val = decide (key = other) := by
  show (bit key.val).toBitVec.getLsbD other.val = decide (key = other)
  rw [toBitVec_bit, BitVec.getLsbD_twoPow]
  simp [Fin.ext_iff, key.isLt]

theorem testBit_assignBit (bits : UInt16) (key other : Key) (down : Bool) :
    (assignBit bits key.val down).toNat.testBit other.val =
      if key = other then down else bits.toNat.testBit other.val := by
  have single : (bit key.val).toBitVec.getLsbD other.val = decide (key = other) :=
    testBit_bit key other
  have inside : other.val < 16 := other.isLt
  show (assignBit bits key.val down).toBitVec.getLsbD other.val =
    if key = other then down else bits.toBitVec.getLsbD other.val
  cases down with
  | true =>
      rw [assignBit, if_pos rfl, UInt16.toBitVec_or, BitVec.getLsbD_or, single]
      by_cases same : key = other <;> simp only [same, decide_true, decide_false, Bool.or_true,
        Bool.or_false, if_true, if_false]
  | false =>
      rw [assignBit, if_neg Bool.false_ne_true, UInt16.toBitVec_and, UInt16.toBitVec_not,
        BitVec.getLsbD_and, BitVec.getLsbD_not, single]
      by_cases same : key = other <;> simp only [same, inside, decide_true, decide_false,
        Bool.not_true, Bool.not_false, Bool.and_true, Bool.and_false, if_true, if_false]

theorem and_bit_ne_zero_iff (bits : UInt16) (key : Key) :
    bits &&& bit key.val ≠ 0 ↔ bits.toNat.testBit key.val = true := by
  have present : BitVec.twoPow 16 key.val ≠ 0#16 := by
    revert key
    decide
  show _ ↔ bits.toBitVec.getLsbD key.val = true
  rw [ne_eq, ← UInt16.toBitVec_inj, UInt16.toBitVec_and, toBitVec_bit, BitVec.and_twoPow]
  by_cases set : bits.toBitVec.getLsbD key.val = true
  · rw [if_pos set]
    exact iff_of_true present set
  · rw [if_neg set]
    exact iff_of_false (not_not_intro rfl) set

/-- A mask is determined by the bits of the keys. -/
theorem mask_ext {first second : UInt16}
    (same : ∀ key : Key, first.toNat.testBit key.val = second.toNat.testBit key.val) :
    first = second := by
  apply UInt16.toBitVec_inj.mp
  apply BitVec.eq_of_getLsbD_eq
  intro number inside
  exact same ⟨number, inside⟩

/-- The mask of a keypad has the bits of the keys that are down. -/
theorem testBit_mask (keypad : Keypad) (key : Key) :
    keypad.mask.toNat.testBit key.val = keypad.isDown key := by
  have digits : (List.finRange 16).foldr
      (fun key digits => 2 * digits + (keypad.isDown key).toNat) 0 = Nat.ofBits keypad.isDown :=
    rfl
  have small : Nat.ofBits keypad.isDown < UInt16.size := Nat.ofBits_lt_two_pow keypad.isDown
  rw [mask, digits, UInt16.toNat_ofNat_of_lt' small]
  exact Nat.testBit_ofBits_lt keypad.isDown key.val key.isLt

/-! ## The keypad and a mask agree -/

/-- The keys that are down are those whose bits are set. -/
def Refines (keypad : Keypad) (bits : UInt16) : Prop :=
  ∀ key, keypad.isDown key = bits.toNat.testBit key.val

/-- What a change makes of a mask. -/
def Change.onMask (bits : UInt16) : Change → UInt16
  | .press key => assignBit bits (key.toNat % 16) true
  | .release key => assignBit bits (key.toNat % 16) false
  | .set key down => assignBit bits (key.toNat % 16) down
  | .assign key down => assignBit bits key.val down
  | .clear => 0
  | .replace other => other

theorem refines_released : Refines released 0 := by
  intro key
  rw [isDown_released]
  exact (Nat.zero_testBit key.val).symm

namespace Refines

variable {keypad : Keypad} {bits : UInt16}

/-- Setting a key and setting its bit keep a keypad and its mask together. -/
theorem assign (refines : Refines keypad bits) (key : Key) (down : Bool) :
    Refines (keypad.assign key down) (assignBit bits key.val down) := by
  intro other
  rw [isDown_assign, testBit_assignBit, refines]

theorem apply (refines : Refines keypad bits) (change : Change) :
    Refines (keypad.apply change) (change.onMask bits) := by
  cases change with
  | press key => exact refines.assign (Key.ofByte key) true
  | release key => exact refines.assign (Key.ofByte key) false
  | set key down => exact refines.assign (Key.ofByte key) down
  | assign key down => exact refines.assign key down
  | clear => exact refines_released
  | replace other => exact isDown_ofMask other

theorem applyAll (refines : Refines keypad bits) (changes : List Change) :
    Refines (changes.foldl Keypad.apply keypad) (changes.foldl Change.onMask bits) := by
  induction changes generalizing keypad bits with
  | nil => exact refines
  | cons change rest later => exact later (refines.apply change)

theorem mask_eq (refines : Refines keypad bits) : keypad.mask = bits := by
  apply mask_ext
  intro key
  rw [testBit_mask, refines]

theorem ofMask_eq (refines : Refines keypad bits) : ofMask bits = keypad := by
  apply ext_isDown
  intro key
  rw [isDown_ofMask, refines]

theorem eq_zero_iff (refines : Refines keypad bits) :
    bits = 0 ↔ ∀ key, keypad.isDown key = false := by
  constructor
  · rintro rfl key
    rw [refines]
    exact Nat.zero_testBit key.val
  · intro up
    apply mask_ext
    intro key
    rw [← refines, up]
    exact (Nat.zero_testBit key.val).symm

end Refines

/-! ## The lowest key -/

theorem first?_eq_none_iff (keypad : Keypad) :
    keypad.first? = none ↔ ∀ key, keypad.isDown key = false := by
  simp [first?]

/-- The first key is the lowest one that is down. -/
theorem first?_eq_some_iff (keypad : Keypad) (key : Key) :
    keypad.first? = some key ↔
      keypad.isDown key = true ∧ ∀ lower < key, keypad.isDown lower = false := by
  rw [first?, List.find?_eq_some_iff_getElem]
  apply and_congr_right
  intro down
  constructor
  · rintro ⟨number, inside, rfl, before⟩ lower below
    have up := before lower.val (by simpa [Fin.lt_def] using below)
    simpa using up
  · intro before
    refine ⟨key.val, by simp, by simp, ?_⟩
    intro number below
    have up := before ⟨number, Nat.lt_trans below key.isLt⟩ below
    simpa using up

/-! ## One key after the other -/

/-- The mask, gathered by setting the bit of one key after the other. -/
def gather (keypad : Keypad) : UInt16 :=
  (List.finRange 16).foldl
    (fun bits key => if keypad.isDown key then bits ||| bit key.val else bits) 0

/-- The keypad after a mask was written over it, one key after the other. -/
def spread (keypad : Keypad) (bits : UInt16) : Keypad :=
  (List.finRange 16).foldl (fun keypad key => keypad.assign key (bits &&& bit key.val != 0)) keypad

/-- Gathering keys into a mask adds the bits of those that are down. -/
theorem testBit_foldl_gather (keypad : Keypad) (keys : List Key) (bits : UInt16) (other : Key) :
    (keys.foldl (fun bits key => if keypad.isDown key then bits ||| bit key.val else bits)
        bits).toNat.testBit other.val = true ↔
      bits.toNat.testBit other.val = true ∨ other ∈ keys ∧ keypad.isDown other = true := by
  induction keys generalizing bits with
  | nil => simp
  | cons key rest later =>
      rw [List.foldl_cons, later]
      by_cases same : key = other
      · subst same
        cases down : keypad.isDown key <;> simp [testBit_bit]
      · have apart : ¬ other = key := fun equal => same equal.symm
        cases down : keypad.isDown key <;> simp [testBit_bit, same, apart]

/-- The mask that is gathered key by key is the mask of the keypad. -/
theorem gather_eq_mask (keypad : Keypad) : keypad.gather = keypad.mask := by
  apply mask_ext
  intro key
  rw [Bool.eq_iff_iff, gather, testBit_foldl_gather, testBit_mask]
  simp

/-- A key that has been written is as its bit says, and so is one that was so before. -/
theorem isDown_foldl_spread
    (bits : UInt16) (keys : List Key) (keypad : Keypad) (other : Key)
    (written : other ∈ keys ∨ keypad.isDown other = bits.toNat.testBit other.val) :
    (keys.foldl (fun keypad key => keypad.assign key (bits &&& bit key.val != 0))
        keypad).isDown other =
      bits.toNat.testBit other.val := by
  induction keys generalizing keypad with
  | nil => simpa using written
  | cons key rest later =>
      rw [List.foldl_cons]
      apply later
      rw [isDown_assign]
      by_cases same : key = other
      · subst same
        right
        rw [if_pos rfl, Bool.eq_iff_iff, bne_iff_ne]
        exact and_bit_ne_zero_iff bits key
      · have apart : ¬ other = key := fun equal => same equal.symm
        simpa [same, apart] using written

/-- Nothing is left of what the keypad held before. -/
theorem spread_eq_ofMask (keypad : Keypad) (bits : UInt16) : keypad.spread bits = ofMask bits := by
  apply ext_isDown
  intro key
  rw [spread, isDown_foldl_spread bits _ keypad key (.inl (List.mem_finRange key)), isDown_ofMask]

/-! ## Refinement -/

/--
The keypad refines a mask of sixteen bits.  Start with all keys up and the mask zero, and let the
host make any changes: press, release or set the key of a byte, write a single key, clear the
keypad, replace it by a mask.  On the mask these set or clear the bit of the byte modulo sixteen,
zero the mask and replace it.

Then the mask of the keypad, also when it is gathered key by key, is that mask; the key of any byte
is down exactly if its bit is set, and so is each of the sixteen keys; and the first key that is
down is the one of the lowest bit, or there is none and the mask is zero.

The mask of the keypad makes any other keypad equal to it, whether it replaces the other at once or
is spread over it key by key, and so it does when the loop takes it as the latest mask of a turn.
-/
theorem keypad_refines_mask (changes : List Change) :
    let keypad := changes.foldl apply released
    let bits := changes.foldl Change.onMask 0
    (keypad.mask = bits ∧ keypad.gather = bits) ∧
      (∀ byte : UInt8,
        keypad.isDown (Key.ofByte byte) = bits.toNat.testBit (byte.toNat % 16)) ∧
      (∀ key : Key, keypad.keys.get key = bits.toNat.testBit key.val) ∧
      (keypad.first? = none ↔ bits = 0) ∧
      (∀ key : Key, keypad.first? = some key ↔
        bits.toNat.testBit key.val = true ∧
          ∀ lower < key, bits.toNat.testBit lower.val = false) ∧
      (∀ other : Keypad,
        other.apply (.replace keypad.mask) = keypad ∧ other.spread keypad.mask = keypad) ∧
      ∀ (emulator : Emulator) (arrivals : Arrivals),
        (emulator.receive arrivals.beforeKeys).latestMask? = some keypad.mask →
          (emulator.ready arrivals).machine.keypad = keypad := by
  intro keypad bits
  have refines : Refines keypad bits := refines_released.applyAll changes
  have whole : ofMask keypad.mask = keypad := by rw [refines.mask_eq, refines.ofMask_eq]
  refine ⟨⟨refines.mask_eq, ?_⟩, ?_, ?_, ?_, ?_, ?_, ?_⟩
  · rw [gather_eq_mask, refines.mask_eq]
  · intro byte
    exact refines (Key.ofByte byte)
  · exact refines
  · rw [first?_eq_none_iff, refines.eq_zero_iff]
  · intro key
    rw [first?_eq_some_iff, refines]
    simp only [refines _]
  · intro other
    exact ⟨whole, (spread_eq_ofMask other keypad.mask).trans whole⟩
  · intro emulator arrivals latest
    rw [Emulator.machine_ready, latest]
    exact whole

/-- Two keys pressed, the lower one by a byte above sixteen, and another byte that lets it go. -/
def pressed : List Change :=
  [.press 0x13, .set 0xA true, .release 0xF3]

/-- A linked emulator whose own keypad has other keys down. -/
def receiving : Emulator :=
  (Emulator.create { (Machine.create (Random.ofSeed 0)).machine with keypad := ofMask 0xFF }
    Settings.default).connect

theorem keypad_refines_mask_pressed :
    let keypad := pressed.foldl apply released
    keypad.mask = 0x400 ∧ keypad.first? = some 0xA ∧
      (receiving.ready ⟨[.postKeys 3, .postKeys 0x400], [], []⟩).machine.keypad = keypad := by
  have bits : pressed.foldl Change.onMask 0 = 0x400 := by decide
  rcases keypad_refines_mask pressed with ⟨⟨mask, _⟩, _, _, _, first, _, ships⟩
  rw [bits] at mask first
  have latest : (receiving.receive [.postKeys 3, .postKeys 0x400]).latestMask? = some 0x400 := by
    decide +kernel
  refine ⟨mask, (first 0xA).mpr (by decide), ?_⟩
  apply ships
  rw [mask]
  exact latest

end Keypad

end ChipEight
