import ChipEight.Proofs.Font
import ChipEight.Proofs.Transfers

/-!
# What a step reads of memory

A step looks at the word at the program counter and, if the word draws a sprite or loads registers,
at the bytes of the transfer.  Of all other memory it learns nothing.

To say so, two machines are compared that differ in memory only, and there only at addresses that
the step does not look at.  They make the same step, and differ afterwards in no more bytes than
before: a byte that the step writes is the same in both, and any other stays as it was in each.
-/

namespace ChipEight

namespace Memory

variable {first second : Memory}

/-- The address is one of so many from the start on. -/
def Within (start length address : Nat) : Prop :=
  start ≤ address ∧ address < start + length

/-- The two memories hold the same bytes at the addresses of a region. -/
def AgreeOn (region : Nat → Prop) (first second : Memory) : Prop :=
  ∀ address, region address → first.read address = second.read address

theorem AgreeOn.slice_eq
    {start length : Nat} (agree : AgreeOn (Within start length) first second) :
    first.slice start length = second.slice start length := by
  refine List.map_congr_left fun offset listed => ?_
  have inside : offset < length := List.mem_range.mp listed
  exact agree (start + offset) ⟨Nat.le_add_right _ _, Nat.add_lt_add_left inside _⟩

/-- Where bytes were written, what was there before makes no difference. -/
theorem read_writeAll_congr
    {bytes : List UInt8} {address other : Nat} (fits : address + bytes.length ≤ size)
    (within : Within address bytes.length other) :
    (first.writeAll address bytes).read other = (second.writeAll address bytes).read other := by
  obtain ⟨offset, rfl⟩ := Nat.exists_eq_add_of_le within.1
  have inside : offset < bytes.length := Nat.lt_of_add_lt_add_left within.2
  rw [read_writeAll_inside fits inside, read_writeAll_inside fits inside]

end Memory

/-! ## The bytes that are looked at -/

/-- How many bytes from the index on the instruction reads. -/
def Instruction.readLength : Instruction → Nat
  | .draw _ _ height => height.val
  | .loadRegisters x => x.val + 1
  | _ => 0

/-- How many bytes from the index on a step on the word reads. -/
def Word.readLength (word : Word) : Nat :=
  if word.Matches "Dxyn" then word.n.val
  else if word.Matches "Fx65" then word.x.val + 1
  else 0

/-- How far a word reads is told by its pattern. -/
theorem Word.readLength_of_instruction?
    {word : Word} {instruction : Instruction} (decoded : word.instruction? = some instruction) :
    word.readLength = instruction.readLength := by
  have operands := Word.operandsFrom_of_instruction? decoded
  simp only [readLength, word.matches_iff "Dxyn" (.draw word.x word.y word.n),
    word.matches_iff "Fx65" (.loadRegisters word.x), decoded]
  cases instruction with
  | draw x y height =>
      rcases operands with ⟨rfl, rfl, rfl⟩
      simp [Instruction.readLength]
  | loadRegisters x =>
      cases operands
      simp [Instruction.readLength]
  | _ => simp [Instruction.readLength]

namespace Machine

/-- The addresses of the word at the program counter and of the bytes that a step on it reads. -/
def LooksAt (machine : Machine) (address : Nat) : Prop :=
  address = machine.pc.toNat ∨ address = machine.pc.toNat + 1 ∨
    ∃ word, machine.Fetches word ∧ Memory.Within machine.index.toNat word.readLength address

/-! ## A machine with another memory -/

def withMemory (machine : Machine) (memory : Memory) : Machine :=
  { machine with memory := memory }

/-- Every component of the two machines is the same, except perhaps memory. -/
def SameExceptMemory (first second : Machine) : Prop :=
  second = first.withMemory second.memory

section Step

variable {machine : Machine} {memory : Memory} {instruction : Instruction}

/-- Registers are filled alike from memories that agree on the transfer. -/
theorem fillRegisters_withMemory
    {x : Register}
    (agree : Memory.AgreeOn (Memory.Within machine.index.toNat (x.val + 1)) machine.memory memory) :
    (machine.withMemory memory).fillRegisters x = (machine.fillRegisters x).withMemory memory := by
  have same : ((machine.withMemory memory).fillRegisters x).registers =
      (machine.fillRegisters x).registers := by
    refine Vector.ext fun register inside => ?_
    simp only [fillRegisters, withMemory, Vector.getElem_ofFn]
    split
    case isTrue below =>
      exact (agree _ ⟨Nat.le_add_right _ _,
        Nat.add_lt_add_left (Nat.lt_succ_of_le below) _⟩).symm
    case isFalse => rfl
  simp only [fillRegisters, withMemory] at same ⊢
  rw [same]

/-- The instruction reads no more of memory than the bytes from the index on that it needs. Two
instructions read memory, and the others do the same on any. -/
theorem execute_withMemory
    (agree : Memory.AgreeOn (Memory.Within machine.index.toNat instruction.readLength)
      machine.memory memory) :
    (machine.withMemory memory).execute instruction =
      (machine.execute instruction).withMemory
        ((machine.withMemory memory).execute instruction).memory := by
  cases instruction with
  | waitKey x => rw [execute_waitKey, execute_waitKey]; rfl
  | arithmetic operation x y => cases operation <;> rfl
  | draw x y height =>
      have sprite : machine.memory.slice machine.index.toNat height.val =
          memory.slice machine.index.toNat height.val := Memory.AgreeOn.slice_eq agree
      simp only [execute, drawSprite, withMemory, sprite]
      rfl
  | loadRegisters x =>
      rw [execute_loadRegisters, execute_loadRegisters, fillRegisters_withMemory agree]
      rfl
  | _ => rfl

theorem fetch?_withMemory (agree : Memory.AgreeOn machine.LooksAt machine.memory memory) :
    (machine.withMemory memory).fetch? = machine.fetch? := by
  have high := agree machine.pc.toNat (.inl rfl)
  have low := agree (machine.pc.toNat + 1) (.inr (.inl rfl))
  rw [fetch?, fetch?, high, low]
  rfl

/-- Memories that agree where a step looks have the same instruction coming. -/
theorem upcoming_withMemory (agree : Memory.AgreeOn machine.LooksAt machine.memory memory) :
    (machine.withMemory memory).upcoming = machine.upcoming := by
  rw [upcoming, upcoming, fetch?_withMemory agree]
  rfl

/-- What a running machine looks at includes what its instruction reads. -/
theorem agreeOn_of_upcoming
    (agree : Memory.AgreeOn machine.LooksAt machine.memory memory)
    (running : machine.halted = false) (upcoming : machine.upcoming = .ok instruction) :
    Memory.AgreeOn (Memory.Within machine.index.toNat instruction.readLength)
      machine.memory memory := by
  rcases (upcoming_eq_ok_iff machine instruction).mp upcoming with ⟨word, fetched, decoded, _⟩
  have fetches : machine.Fetches word := (fetches_iff machine word).mpr ⟨running, fetched⟩
  intro address inside
  rw [← Word.readLength_of_instruction? decoded] at inside
  exact agree address (.inr (.inr ⟨word, fetches, inside⟩))

/-- With another memory that is the same where the step looks, the step differs in memory only. -/
theorem step_withMemory (agree : Memory.AgreeOn machine.LooksAt machine.memory memory) :
    ∃ later, (machine.withMemory memory).step =
      { machine.step with machine := machine.step.machine.withMemory later } := by
  have fetched := fetch?_withMemory agree
  have upcoming := upcoming_withMemory agree
  have notices : (machine.withMemory memory).fetchNotices = machine.fetchNotices := by
    rw [fetchNotices, fetchNotices, fetched]
    rfl
  cases running : machine.halted with
  | true =>
      refine ⟨memory, ?_⟩
      rw [step_of_halted running]
      exact step_of_halted running
  | false =>
      have runs : (machine.withMemory memory).halted = false := running
      cases outcome : machine.upcoming with
      | error fault =>
          refine ⟨memory, ?_⟩
          simp only [step, running, runs, upcoming, outcome, notices]
          rfl
      | ok instruction =>
          have carried := execute_withMemory (agreeOn_of_upcoming agree running outcome)
          refine ⟨((machine.withMemory memory).execute instruction).memory, ?_⟩
          simp only [step, running, runs, upcoming, outcome, notices]
          rw [carried]
          rfl

theorem storesAt_withMemory
    (agree : Memory.AgreeOn machine.LooksAt machine.memory memory) (address : Nat) :
    (machine.withMemory memory).StoresAt address .step ↔ machine.StoresAt address .step := by
  rcases step_withMemory agree with ⟨later, stepped⟩
  simp only [StoresAt, stepped, fetch?_withMemory agree]
  rfl

theorem read_step_of_not_storesAt
    {address : Nat} (silent : ¬ machine.StoresAt address .step) :
    machine.step.machine.memory.read address = machine.memory.read address := by
  have continues : ¬ Action.restarts .step = true := Bool.false_ne_true
  exact read_perform continues silent

/-- What a step stores depends on no other memory than what it looks at. -/
theorem read_step_of_storesAt
    (agree : Memory.AgreeOn machine.LooksAt machine.memory memory) {address : Nat}
    (stores : machine.StoresAt address .step) :
    (machine.withMemory memory).step.machine.memory.read address =
      machine.step.machine.memory.read address := by
  have upcoming := upcoming_withMemory agree
  rcases stores with ⟨succeeded, word, fetched, stored⟩
  rcases carried_of_step_ok succeeded fetched with ⟨instruction, decoded, outcome, carried⟩
  have runs : (machine.withMemory memory).halted = false :=
    ((step_result_ok_iff machine).mp succeeded).1
  have harmless : machine.fault? instruction = none := by
    rcases (upcoming_eq_ok_iff machine instruction).mp outcome with ⟨_, _, _, harmless⟩
    exact harmless
  have carriedOther : (machine.withMemory memory).step.machine =
      ((machine.withMemory memory).execute instruction).tick :=
    (step_of_upcoming_ok runs (upcoming.trans outcome)).1
  rw [carried, carriedOther]
  show ((machine.withMemory memory).execute instruction).memory.read address =
    (machine.execute instruction).memory.read address
  rw [execute_memory, execute_memory]
  rcases stored with ⟨fits, within⟩ | ⟨fits, start, reach⟩
  · cases decoded.symm.trans ((word.matches_iff "Fx33" (.storeDecimal word.x)).mp fits)
    exact Memory.read_writeAll_congr ((reachFault?_eq_none_iff machine 3).mp harmless) within
  · cases decoded.symm.trans ((word.matches_iff "Fx55" (.storeRegisters word.x)).mp fits)
    have inside := (reachFault?_eq_none_iff machine (word.x.val + 1)).mp harmless
    rw [← Micro.length_registersUpTo machine word.x] at inside
    rw [Nat.add_assoc, ← Micro.length_registersUpTo machine word.x] at reach
    exact Memory.read_writeAll_congr inside ⟨start, reach⟩

end Step

/--
A step learns nothing of memory beyond what it looks at.  Take two machines that are the same except
for memory, and whose memories agree where the first one looks: at its program counter and, if the
word there draws a sprite or loads registers, at the bytes from the index on that the word asks for.

Then a step has the same result and tells the same on both, and leaves two machines that are the
same except for memory.  Where the memories agreed before they agree afterwards.  A byte that one
step stores is stored by the other one too and is the same in both, and any other byte stays what it
was in each.
-/
theorem step_reads_locally
    {first second : Machine} (same : first.SameExceptMemory second)
    (agree : Memory.AgreeOn first.LooksAt first.memory second.memory) :
    first.step.result = second.step.result ∧ first.step.notices = second.step.notices ∧
      first.step.machine.SameExceptMemory second.step.machine ∧
      (∀ address, first.memory.read address = second.memory.read address →
        first.step.machine.memory.read address = second.step.machine.memory.read address) ∧
      ∀ address,
        (first.StoresAt address .step ↔ second.StoresAt address .step) ∧
        (first.StoresAt address .step →
          first.step.machine.memory.read address = second.step.machine.memory.read address) ∧
        (¬ first.StoresAt address .step →
          first.step.machine.memory.read address = first.memory.read address ∧
            second.step.machine.memory.read address = second.memory.read address) := by
  obtain ⟨memory, rfl⟩ : ∃ memory, second = first.withMemory memory := ⟨_, same⟩
  replace agree : Memory.AgreeOn first.LooksAt first.memory memory := agree
  have stored (address : Nat) (stores : first.StoresAt address .step) :
      first.step.machine.memory.read address =
        (first.withMemory memory).step.machine.memory.read address :=
    (read_step_of_storesAt agree stores).symm
  have kept (address : Nat) (silent : ¬ first.StoresAt address .step) :
      first.step.machine.memory.read address = first.memory.read address ∧
        (first.withMemory memory).step.machine.memory.read address = memory.read address := by
    have silentOther := (storesAt_withMemory agree address).not.mpr silent
    exact ⟨read_step_of_not_storesAt silent, read_step_of_not_storesAt silentOther⟩
  rcases step_withMemory agree with ⟨later, stepped⟩
  refine ⟨?_, ?_, ?_, ?_, ?_⟩
  · rw [stepped]
  · rw [stepped]
  · rw [stepped]
    rfl
  · intro address before
    by_cases stores : first.StoresAt address .step
    · exact stored address stores
    · rcases kept address stores with ⟨firstKept, secondKept⟩
      rw [firstKept, secondKept]
      exact before
  · intro address
    exact ⟨(storesAt_withMemory agree address).symm, stored address, kept address⟩

/-- A machine about to load two registers from the font, with a byte of choice behind the word. -/
def loadingFont (byte : UInt8) : Machine :=
  (create (Random.ofSeed 0)).machine.performAll [.load #[0xF1, 0x65, byte]]

theorem loadingFont_eq_start (byte : UInt8) :
    loadingFont byte = start #[0xF1, 0x65, byte] (Random.ofSeed 0) :=
  rfl

/-- Memories that differ in a byte that the step does not look at differ in nothing else after it.
-/
theorem step_reads_locally_loadingFont :
    (loadingFont 1).Reachable ∧ (loadingFont 2).Reachable ∧
      (loadingFont 1).memory.read 0x202 = 1 ∧ (loadingFont 2).memory.read 0x202 = 2 ∧
      (loadingFont 2).step.result = .ok () ∧
      (loadingFont 1).step.machine.SameExceptMemory (loadingFont 2).step.machine := by
  have same : (loadingFont 1).SameExceptMemory (loadingFont 2) := by
    rw [loadingFont_eq_start, loadingFont_eq_start]
    rfl
  have fetches : (loadingFont 1).Fetches ⟨0xF165⟩ := by decide +kernel
  have agree : Memory.AgreeOn (loadingFont 1).LooksAt (loadingFont 1).memory
      (loadingFont 2).memory := by
    rintro address (rfl | rfl | ⟨word, fetchesOther, _, inside⟩)
    · decide +kernel
    · decide +kernel
    · cases ((fetches_iff _ _).mp fetches).2.symm.trans ((fetches_iff _ _).mp fetchesOther).2
      have reach : (loadingFont 1).index.toNat + Word.readLength ⟨0xF165⟩ = 2 := by decide +kernel
      rw [reach] at inside
      obtain rfl | rfl : address = 0 ∨ address = 1 := by omega
      · decide +kernel
      · decide +kernel
  have succeeded : (loadingFont 1).step.result = .ok () := by decide +kernel
  rcases step_reads_locally same agree with ⟨result, _, after, _⟩
  exact ⟨⟨_, _, rfl⟩, ⟨_, _, rfl⟩, by decide +kernel, by decide +kernel,
    result.symm.trans succeeded, after⟩

end Machine

end ChipEight
