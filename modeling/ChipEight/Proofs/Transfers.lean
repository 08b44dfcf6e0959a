import ChipEight.Proofs.Footprint

/-!
# Transfers between registers and memory

Two instructions move the registers up to one of them to memory and back, and a third one writes a
register in decimal.  Each is described by what it leaves in memory or in the registers, up to the
last byte of memory, and by all that it leaves alone.

The two moves undo one another once the index is put back.  That follows from the two descriptions,
so it holds of the instructions by themselves, whatever program they stand in, and also where a
store writes over the instruction that comes next.
-/

namespace ChipEight

namespace Memory

variable {memory : Memory} {bytes : List UInt8} {address : Nat}

/-- The bytes written lie where they were written. -/
theorem read_writeAll_inside
    (fits : address + bytes.length ≤ size) {offset : Nat} (inside : offset < bytes.length) :
    (memory.writeAll address bytes).read (address + offset) = bytes[offset] := by
  have reached : address ≤ address + offset ∧ address + offset < address + bytes.length ∧
      address + offset < size := by
    omega
  rw [read_writeAll, if_pos reached, Nat.add_sub_cancel_left, List.getElem?_eq_getElem inside,
    Option.getD_some]

/-- A transfer leaves the bytes on either side of it alone. -/
theorem read_writeAll_outside
    {other : Nat} (outside : other < address ∨ address + bytes.length ≤ other) :
    (memory.writeAll address bytes).read other = memory.read other := by
  rw [read_writeAll, if_neg (by omega)]

end Memory

namespace Machine

/--
There is no fault in the way of the instruction, and this is the machine after it, before the timers
count down.
-/
def CarriesOut (machine : Machine) (instruction : Instruction) (later : Machine) : Prop :=
  machine.fault? instruction = none ∧ machine.execute instruction = later

/-! ## What the transfers do -/

/-- The registers up to `x` lie at the index, which has moved behind them; all else is as it was. -/
structure StoresRegisters (machine : Machine) (x : Register) (later : Machine) : Prop where
  bytes : ∀ register ≤ x,
    later.memory.read (machine.index.toNat + register.val) = machine.registers.get register
  others : ∀ address,
    address < machine.index.toNat ∨ machine.index.toNat + x.val < address →
      later.memory.read address = machine.memory.read address
  index : later.index.toNat = machine.index.toNat + x.val + 1
  rest : later =
    { machine with pc := machine.pc + 2, index := later.index, memory := later.memory }

/-- The registers up to `x` hold what lies at the index, which has moved behind it; all else is as
it was. -/
structure LoadsRegisters (machine : Machine) (x : Register) (later : Machine) : Prop where
  registers : ∀ register ≤ x,
    later.registers.get register = machine.memory.read (machine.index.toNat + register.val)
  others : ∀ register, x < register →
    later.registers.get register = machine.registers.get register
  index : later.index.toNat = machine.index.toNat + x.val + 1
  rest : later =
    { machine with pc := machine.pc + 2, index := later.index, registers := later.registers }

/-- The three digits of the register lie at the index; all else is as it was. -/
structure StoresDecimal (machine : Machine) (x : Register) (later : Machine) : Prop where
  digits : ∀ place < 3, (later.memory.read (machine.index.toNat + place)).toNat ≤ 9
  value :
    100 * (later.memory.read machine.index.toNat).toNat +
        10 * (later.memory.read (machine.index.toNat + 1)).toNat +
        (later.memory.read (machine.index.toNat + 2)).toNat =
      (machine.registers.get x).toNat
  others : ∀ address,
    address < machine.index.toNat ∨ machine.index.toNat + 2 < address →
      later.memory.read address = machine.memory.read address
  rest : later = { machine with pc := machine.pc + 2, memory := later.memory }

section Transfers

variable {machine : Machine} {x : Register}

theorem toNat_pastTransfer (inside : machine.index.toNat + x.val + 1 ≤ 4096) :
    (machine.index + UInt16.ofNat (x.val + 1)).toNat = machine.index.toNat + x.val + 1 := by
  have count : (UInt16.ofNat (x.val + 1)).toNat = x.val + 1 := toNat_ofNat_of_lt (by omega)
  rw [toNat_add_of_lt (by omega), count, Nat.add_assoc]

theorem getElem_registersUpTo
    (machine : Machine) {register : Register}
    (listed : register.val < (machine.registersUpTo x).length) :
    (machine.registersUpTo x)[register.val] = machine.registers.get register := by
  simp [registersUpTo]

theorem storesRegisters_execute (inside : machine.index.toNat + x.val + 1 ≤ 4096) :
    machine.StoresRegisters x (machine.execute (.storeRegisters x)) where
  bytes register below := by
    have listed : register.val < (machine.registersUpTo x).length := by
      rw [Micro.length_registersUpTo]
      exact Nat.lt_succ_of_le below
    have fits : machine.index.toNat + (machine.registersUpTo x).length ≤ Memory.size := by
      rwa [Micro.length_registersUpTo]
    rw [execute_memory]
    exact (Memory.read_writeAll_inside fits listed).trans (getElem_registersUpTo machine listed)
  others address outside := by
    rw [execute_memory]
    apply Memory.read_writeAll_outside
    rw [Micro.length_registersUpTo]
    omega
  index := by
    rw [execute_index]
    exact toNat_pastTransfer inside
  rest := rfl

theorem loadsRegisters_execute (inside : machine.index.toNat + x.val + 1 ≤ 4096) :
    machine.LoadsRegisters x (machine.execute (.loadRegisters x)) where
  registers register below := by
    rw [execute_registers]
    simp [fillRegisters, below]
  others register above := by
    rw [execute_registers]
    simp [fillRegisters, Fin.not_le.mpr above]
  index := by
    rw [execute_index]
    exact toNat_pastTransfer inside
  rest := by
    rw [execute_loadRegisters]

theorem decimalDigits_le (byte : UInt8) : ∀ digit ∈ decimalDigits byte, digit.toNat ≤ 9 := by
  have bound : byte.toNat < 256 := byte.toNat_lt
  simp only [decimalDigits, List.forall_mem_cons, UInt8.toNat_div, UInt8.toNat_mod,
    UInt8.reduceToNat, List.not_mem_nil, false_implies, implies_true, and_true]
  omega

/-- The decimal digits of a byte add up to it at their places. -/
theorem decimalDigits_value (byte : UInt8) :
    100 * (byte / 100).toNat + 10 * (byte / 10 % 10).toNat + (byte % 10).toNat = byte.toNat := by
  simp only [UInt8.toNat_div, UInt8.toNat_mod, UInt8.reduceToNat]
  omega

theorem storesDecimal_execute (inside : machine.index.toNat + 3 ≤ 4096) :
    machine.StoresDecimal x (machine.execute (.storeDecimal x)) := by
  let byte := machine.registers.get x
  have stored (place : Nat) (listed : place < 3) :
      (machine.execute (.storeDecimal x)).memory.read (machine.index.toNat + place) =
        (decimalDigits byte)[place] := by
    rw [execute_memory]
    exact Memory.read_writeAll_inside inside listed
  have hundreds := stored 0 (by decide)
  have tens := stored 1 (by decide)
  have ones := stored 2 (by decide)
  exact
    { digits place listed := by
        rw [stored place listed]
        exact decimalDigits_le byte _ (List.getElem_mem _)
      value := by
        rw [Nat.add_zero] at hundreds
        rw [hundreds, tens, ones]
        exact decimalDigits_value byte
      others address outside := by
        rw [execute_memory]
        exact Memory.read_writeAll_outside (by simp only [decimalDigits, List.length]; omega)
      rest := rfl }

/-! ## Carrying them out -/

/-- An instruction whose only fault is its transfer is carried out inside memory. -/
theorem carriesOut_of_reach
    {instruction : Instruction} {length : Nat}
    (transfers : machine.fault? instruction = machine.reachFault? length)
    (inside : machine.index.toNat + length ≤ 4096) :
    machine.CarriesOut instruction (machine.execute instruction) :=
  ⟨transfers.trans ((reachFault?_eq_none_iff machine length).mpr inside), rfl⟩

/-- A step carries out the instruction that the word encodes and counts the timers down. -/
theorem CarriesOut.step
    {instruction : Instruction} {word : Word} {later : Machine}
    (carries : machine.CarriesOut instruction later) (fetches : machine.Fetches word)
    (decoded : word.instruction? = some instruction) :
    machine.step.result = .ok () ∧ machine.step.machine = later.tick := by
  rcases carries with ⟨harmless, rfl⟩
  rcases step_of_fetches fetches decoded harmless with ⟨carried, succeeded⟩
  exact ⟨succeeded, carried⟩

/-! ## There and back -/

/-- What was stored is loaded again from the same place, whatever the registers hold meanwhile. -/
theorem StoresRegisters.registers_loaded
    {stored loaded : Machine} {registers : Vector UInt8 16}
    (stores : machine.StoresRegisters x stored)
    (loads : { stored with index := machine.index, registers := registers }.LoadsRegisters x
      loaded) :
    ∀ register ≤ x, loaded.registers.get register = machine.registers.get register :=
  fun register below => (loads.registers register below).trans (stores.bytes register below)

/-- What was loaded is stored again in the same place, so nothing changes there or elsewhere: an
address in between is that of a register, which came from there. -/
theorem LoadsRegisters.memory_stored
    {loaded stored : Machine} (loads : machine.LoadsRegisters x loaded)
    (stores : { loaded with index := machine.index }.StoresRegisters x stored) :
    stored.memory = machine.memory := by
  have untouched : loaded.memory = machine.memory := by rw [loads.rest]
  refine Memory.ext_read fun address _ => ?_
  by_cases outside : address < machine.index.toNat ∨ machine.index.toNat + x.val < address
  · rw [stores.others address outside, untouched]
  · obtain ⟨offset, rfl⟩ := Nat.exists_eq_add_of_le (Nat.not_lt.mp (not_or.mp outside).1)
    have below : offset ≤ x.val := by omega
    let register : Register := ⟨offset, Nat.lt_of_le_of_lt below x.isLt⟩
    exact (stores.bytes register below).trans (loads.registers register below)

end Transfers

/--
Transfers are exact and undo one another.  Take any machine and any register `x` such that the bytes
from the index on for all registers up to `x` lie in memory.  Then both moves are carried out, and
each changes what it should and nothing else.

If the index is put back after a store, a load restores the registers up to `x`, whatever the
registers held in between.  If the index is put back after a load, a store leaves memory as it was
before both.

With three bytes from the index on in memory, the digits of any register are stored there.  In each
case a step on the word of the instruction does the same and counts the timers down.
-/
theorem transfers_undo_one_another (machine : Machine) (x : Register) :
    (machine.index.toNat + x.val + 1 ≤ 4096 →
      ∃ stored loaded,
        machine.CarriesOut (.storeRegisters x) stored ∧ machine.StoresRegisters x stored ∧
        machine.CarriesOut (.loadRegisters x) loaded ∧ machine.LoadsRegisters x loaded ∧
        (∀ registers, ∃ reloaded,
          { stored with index := machine.index, registers := registers }.CarriesOut
              (.loadRegisters x) reloaded ∧
            ∀ register ≤ x, reloaded.registers.get register = machine.registers.get register) ∧
        (∃ restored,
          { loaded with index := machine.index }.CarriesOut (.storeRegisters x) restored ∧
            restored.memory = machine.memory) ∧
        ∀ word, machine.Fetches word → word.x = x →
          (word.Matches "Fx55" →
            machine.step.result = .ok () ∧ machine.step.machine = stored.tick) ∧
          (word.Matches "Fx65" →
            machine.step.result = .ok () ∧ machine.step.machine = loaded.tick)) ∧
    (machine.index.toNat + 3 ≤ 4096 →
      ∃ stored,
        machine.CarriesOut (.storeDecimal x) stored ∧ machine.StoresDecimal x stored ∧
        ∀ word, machine.Fetches word → word.x = x → word.Matches "Fx33" →
          machine.step.result = .ok () ∧ machine.step.machine = stored.tick) := by
  constructor
  · intro inside
    have stores := storesRegisters_execute inside
    have loads := loadsRegisters_execute inside
    have storeRuns : machine.CarriesOut (.storeRegisters x) _ := carriesOut_of_reach rfl inside
    have loadRuns : machine.CarriesOut (.loadRegisters x) _ := carriesOut_of_reach rfl inside
    refine ⟨_, _, storeRuns, stores, loadRuns, loads, ?_, ?_, ?_⟩
    · intro registers
      exact ⟨_, carriesOut_of_reach rfl inside,
        stores.registers_loaded (loadsRegisters_execute inside)⟩
    · exact ⟨_, carriesOut_of_reach rfl inside,
        loads.memory_stored (storesRegisters_execute inside)⟩
    · rintro word fetches rfl
      have stores := word.matches_iff "Fx55" (.storeRegisters word.x)
      have loads := word.matches_iff "Fx65" (.loadRegisters word.x)
      exact ⟨fun fits => storeRuns.step fetches (stores.mp fits),
        fun fits => loadRuns.step fetches (loads.mp fits)⟩
  · intro inside
    have runs : machine.CarriesOut (.storeDecimal x) _ := carriesOut_of_reach rfl inside
    refine ⟨_, runs, storesDecimal_execute inside, ?_⟩
    rintro word fetches rfl fits
    exact runs.step fetches ((word.matches_iff "Fx33" (.storeDecimal word.x)).mp fits)

/-- A machine about to store three registers in the last three bytes of memory. -/
def dumping : Machine :=
  (create (Random.ofSeed 0)).machine.performAll
    [.load #[0xAF, 0xFD, 0x62, 0xFE, 0xF2, 0x55], .step, .step]

theorem transfers_undo_one_another_dumping :
    dumping.Fetches ⟨0xF255⟩ ∧ dumping.step.result = .ok () ∧
      dumping.step.machine.memory.read 0xFFF = 0xFE ∧
      dumping.step.machine.index.toNat = 0x1000 ∧
      (∃ stored reloaded, dumping.CarriesOut (.storeRegisters 2) stored ∧
        { stored with index := dumping.index, registers := Vector.replicate 16 7 }.CarriesOut
            (.loadRegisters 2) reloaded ∧
          reloaded.registers.get 2 = 0xFE) ∧
      ∃ stored, dumping.CarriesOut (.storeDecimal 2) stored ∧ dumping.StoresDecimal 2 stored := by
  have fetches : dumping.Fetches ⟨0xF255⟩ := by decide +kernel
  have start : dumping.index.toNat = 0xFFD := by decide +kernel
  have byte : dumping.registers.get 2 = 0xFE := by decide +kernel
  have inside : dumping.index.toNat + (2 : Register).val + 1 ≤ 4096 :=
    Nat.le_of_eq (congrArg (· + (2 : Register).val + 1) start)
  have digitsInside : dumping.index.toNat + 3 ≤ 4096 :=
    Nat.le_of_eq (congrArg (· + 3) start)
  rcases transfers_undo_one_another dumping 2 with ⟨moves, decimal⟩
  rcases moves inside with
    ⟨stored, loaded, storeRuns, stores, loadRuns, loads, reloads, restores, steps⟩
  rcases decimal digitsInside with ⟨digits, decimalRuns, storesDigits, _⟩
  rcases (steps ⟨0xF255⟩ fetches rfl).1 (by decide) with ⟨succeeded, stepped⟩
  rcases reloads (Vector.replicate 16 7) with ⟨reloaded, reloadRuns, same⟩
  have last := stores.bytes 2 (Fin.le_refl 2)
  have moved := stores.index
  rw [start] at last moved
  rw [stepped]
  exact ⟨fetches, succeeded, last.trans byte, moved,
    ⟨stored, reloaded, storeRuns, reloadRuns, (same 2 (Fin.le_refl 2)).trans byte⟩,
    digits, decimalRuns, storesDigits⟩

end Machine

end ChipEight
