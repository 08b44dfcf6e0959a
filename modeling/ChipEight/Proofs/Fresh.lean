import ChipEight.Proofs.Font
import ChipEight.Proofs.RandomBytes
import ChipEight.Proofs.Replies

/-!
# A start forgets the past

A load and a reset write every component of the machine anew, but for the random source, which goes
on where it was.  `Fresh` says of each component what it is then.  It leaves nothing open, so the
program and the random source alone decide which machine it is, and with it every later reply.

A program that does not fit is refused before anything is written.
-/

namespace ChipEight.Machine

/-- The machine is about to run a program and remembers nothing but its random source. -/
structure Fresh (program : Array UInt8) (random : Random) (machine : Machine) : Prop where
  pc : machine.pc.toNat = 0x200
  index : machine.index.toNat = 0
  registers : ∀ register, machine.registers.get register = 0
  font : ∀ address < 80, machine.HoldsFont address
  bytes : ∀ (offset : Nat) (inside : offset < program.size),
    machine.memory.read (0x200 + offset) = program[offset]
  elsewhere : ∀ address, 80 ≤ address → address < 0x200 ∨ 0x200 + program.size ≤ address →
    machine.memory.read address = 0
  depth : machine.stack.depth = 0
  slots : ∀ slot, machine.stack.slots.get slot = 0
  delay : machine.delay = 0
  sound : machine.sound = 0
  pixels : ∀ column row, machine.screen.frame.pixel column row = false
  redraw : machine.screen.redraw = true
  keys : ∀ key, machine.keypad.isDown key = false
  random : machine.random = random
  running : machine.halted = false

/-- The program lies in the image from its start on. -/
theorem read_image_program
    {program : Array UInt8} (fits : program.size ≤ Memory.programCapacity) {offset : Nat}
    (inside : offset < program.size) :
    (Memory.image program).read (0x200 + offset) = program[offset] := by
  have high : ¬ 0x200 + offset < Memory.programStart := Nat.not_lt.mpr (Nat.le_add_right _ _)
  have within : 0x200 + offset < Memory.size := by
    simp only [Memory.programCapacity, Memory.size, Memory.programStart] at fits ⊢
    omega
  simp [high, within, inside]

/-- There is nothing in the image but the font and the program. -/
theorem read_image_elsewhere
    (program : Array UInt8) {address : Nat} (above : 80 ≤ address)
    (outside : address < 0x200 ∨ 0x200 + program.size ≤ address) :
    (Memory.image program).read address = 0 := by
  rw [Memory.read_image]
  split
  case isTrue low =>
    have length : Memory.font.length = 80 := rfl
    have noGlyph : Memory.font[address]? = none := by
      rw [List.getElem?_eq_none_iff, length]
      exact above
    rw [noGlyph]
    rfl
  case isFalse high =>
    have beyond : 0x200 + program.size ≤ address := outside.resolve_left high
    have missing : program[address - Memory.programStart]? = none := by
      rw [Array.getElem?_eq_none_iff]
      exact Nat.le_sub_of_add_le' beyond
    rw [missing]
    exact ite_self 0

/-- A start makes a machine that owes nothing to any machine before it but the random bytes. -/
theorem fresh_start
    {program : Array UInt8} (fits : program.size ≤ Memory.programCapacity) (random : Random) :
    Fresh program random (start program random) where
  pc := rfl
  index := rfl
  registers register := by simp [start, Vector.get]
  font address inside := holdsFont_start inside program random
  bytes _ inside := read_image_program fits inside
  elsewhere _ above outside := read_image_elsewhere program above outside
  depth := rfl
  slots slot := by simp [start, CallStack.empty, Vector.get]
  delay := rfl
  sound := rfl
  pixels column row := Frame.pixel_blank column row
  redraw := rfl
  keys key := Keypad.isDown_released key
  random := rfl
  running := rfl

namespace Fresh

variable {program : Array UInt8} {random : Random} {first second : Machine}

/-- The font, the program and what lies elsewhere are all there is of memory. -/
theorem memory_eq
    (firstFresh : Fresh program random first) (secondFresh : Fresh program random second) :
    first.memory = second.memory := by
  apply Memory.ext_read
  intro address _
  by_cases glyphs : address < 80
  · exact Option.some.inj ((firstFresh.font address glyphs).symm.trans
      (secondFresh.font address glyphs))
  · by_cases loaded : 0x200 ≤ address ∧ address < 0x200 + program.size
    · obtain ⟨offset, rfl⟩ := Nat.exists_eq_add_of_le loaded.1
      have inside : offset < program.size := Nat.lt_of_add_lt_add_left loaded.2
      rw [firstFresh.bytes offset inside, secondFresh.bytes offset inside]
    · have outside : address < 0x200 ∨ 0x200 + program.size ≤ address := by omega
      rw [firstFresh.elsewhere address (Nat.not_lt.mp glyphs) outside,
        secondFresh.elsewhere address (Nat.not_lt.mp glyphs) outside]

theorem stack_eq
    (firstFresh : Fresh program random first) (secondFresh : Fresh program random second) :
    first.stack = second.stack := by
  have slots : first.stack.slots = second.stack.slots := by
    apply Vector.ext
    intro slot inside
    exact (firstFresh.slots ⟨slot, inside⟩).trans (secondFresh.slots ⟨slot, inside⟩).symm
  have depth : first.stack.depth = second.stack.depth :=
    firstFresh.depth.trans secondFresh.depth.symm
  calc
    first.stack = ⟨first.stack.slots, first.stack.depth⟩ := rfl
    _ = second.stack := by rw [slots, depth]

theorem screen_eq
    (firstFresh : Fresh program random first) (secondFresh : Fresh program random second) :
    first.screen = second.screen := by
  have frame : first.screen.frame = second.screen.frame := by
    apply Frame.ext_pixel
    intro row _ column _
    rw [firstFresh.pixels, secondFresh.pixels]
  have redraw : first.screen.redraw = second.screen.redraw :=
    firstFresh.redraw.trans secondFresh.redraw.symm
  calc
    first.screen = ⟨first.screen.frame, first.screen.redraw⟩ := rfl
    _ = second.screen := by rw [frame, redraw]

/-- Nothing is left open about a fresh machine. -/
theorem ext
    (firstFresh : Fresh program random first) (secondFresh : Fresh program random second) :
    first = second := by
  have registers : first.registers = second.registers := by
    apply Vector.ext
    intro register inside
    exact (firstFresh.registers ⟨register, inside⟩).trans
      (secondFresh.registers ⟨register, inside⟩).symm
  have keypad : first.keypad = second.keypad := by
    apply Keypad.ext_isDown
    intro key
    rw [firstFresh.keys, secondFresh.keys]
  have pc : first.pc = second.pc :=
    UInt16.toNat_inj.mp (firstFresh.pc.trans secondFresh.pc.symm)
  have index : first.index = second.index :=
    UInt16.toNat_inj.mp (firstFresh.index.trans secondFresh.index.symm)
  have delay : first.delay = second.delay := firstFresh.delay.trans secondFresh.delay.symm
  have sound : first.sound = second.sound := firstFresh.sound.trans secondFresh.sound.symm
  have source : first.random = second.random := firstFresh.random.trans secondFresh.random.symm
  have halted : first.halted = second.halted := firstFresh.running.trans secondFresh.running.symm
  have memory := firstFresh.memory_eq secondFresh
  have stack := firstFresh.stack_eq secondFresh
  have screen := firstFresh.screen_eq secondFresh
  cases first
  cases second
  simp only [Machine.mk.injEq]
  exact ⟨pc, index, registers, memory, stack, delay, sound, screen, keypad, source, halted⟩

end Fresh

/-! ## Loads -/

section Loads

variable {program : Array UInt8}

/-- A program is refused exactly if it is larger than the room for programs. -/
theorem load_result_error_iff (machine : Machine) :
    (machine.load program).result = .error (.programTooLarge program.size) ↔
      Memory.programCapacity < program.size := by
  constructor
  · intro refused
    by_contra fits
    rw [load_of_le (Nat.not_lt.mp fits)] at refused
    cases refused
  · intro large
    rw [load_of_lt large]

theorem fresh_load (fits : program.size ≤ Memory.programCapacity) (machine : Machine) :
    Fresh program machine.random (machine.load program).machine := by
  rw [load_of_le fits]
  exact fresh_start fits machine.random

end Loads

/-- The refusal of a program names its size and how much fits. -/
theorem message_programTooLarge (size : Nat) :
    (Fault.programTooLarge size).message =
      "program is " ++ toString size ++
        " bytes, but only 3584 bytes of program memory are available" := by
  have limit : " bytes, but only " ++ (toString Memory.programCapacity ++
      " bytes of program memory are available") =
        " bytes, but only 3584 bytes of program memory are available" := by
    decide +kernel
  have joined (front first second third : String) :
      front ++ first ++ second ++ third = front ++ (first ++ (second ++ third)) := by
    rw [String.append_assoc, String.append_assoc]
  exact (joined _ _ _ _).trans
    (congrArg (fun ending => "program is " ++ toString size ++ ending) limit)

/--
A start forgets the past, whatever machine it meets.  The load of a program fails exactly if the
program has more than 3584 bytes, and then it does nothing.  Otherwise it leaves the machine fresh;
and any other machine with the same random source becomes the same machine by this load, so nothing
that is done later tells the two apart.  A reset is the load of no bytes, and a second one changes
nothing.  All this is what the microprograms come to, which write one component after the other.
-/
theorem load_forgets (machine : Machine) (program : Array UInt8) :
    ((machine.load program).result = .error (.programTooLarge program.size) ↔
        3584 < program.size) ∧
      (3584 < program.size →
        machine.load program = ⟨machine, .error (.programTooLarge program.size), []⟩ ∧
          (Micro.load program).run machine =
            .error (.fault (.programTooLarge program.size)) machine ∧
          (Fault.programTooLarge program.size).message =
            "program is " ++ toString program.size ++
              " bytes, but only 3584 bytes of program memory are available") ∧
      (program.size ≤ 3584 →
        (machine.load program).result = .ok () ∧
          Fresh program machine.random (machine.load program).machine ∧
          (Micro.load program).run machine = .ok () (machine.load program).machine ∧
          ∀ other : Machine, other.random = machine.random →
            (other.load program).machine = (machine.load program).machine ∧
              ∀ actions, (other.load program).machine.replies actions =
                (machine.load program).machine.replies actions) ∧
      Micro.reset.run machine = .ok () machine.reset.machine ∧
      machine.reset.machine = (machine.load #[]).machine ∧
      machine.reset.machine.reset = machine.reset := by
  refine ⟨load_result_error_iff machine, ?_, ?_, Micro.run_reset machine, ?_, rfl⟩
  · intro large
    refine ⟨load_of_lt large machine, ?_, message_programTooLarge program.size⟩
    rw [Micro.run_load]
    exact if_pos large
  · intro fits
    refine ⟨?_, fresh_load fits machine, ?_, ?_⟩
    · rw [load_of_le fits]
    · rw [Micro.run_load, load_of_le fits]
      exact if_neg (Nat.not_lt.mpr fits)
    · intro other sameRandom
      have same : (other.load program).machine = (machine.load program).machine :=
        (sameRandom ▸ fresh_load fits other).ext (fresh_load fits machine)
      refine ⟨same, ?_⟩
      intro actions
      rw [same]
  · rw [load_of_le (Nat.zero_le _)]
    rfl

/-- A machine that halted in a subroutine while a key was down. -/
def stranded : Machine :=
  (create (Random.ofSeed 0)).machine.performAll
    [.load #[0x22, 0x04, 0x00, 0x00, 0xA0, 0x05, 0xD0, 0x15, 0x00, 0x00],
      .key (.press 7), .step, .step, .step, .step]

/-- A machine that halted inside a call refuses a program that is too large, and forgets both with
one that fits. -/
theorem load_forgets_stranded :
    stranded.halted = true ∧ stranded.stack.depth = 1 ∧
      (stranded.load (Array.replicate 3585 0)).machine = stranded ∧
      (stranded.load #[0x00, 0xE0]).machine.stack.depth = 0 ∧
      ∀ actions, ((create (Random.ofSeed 0)).machine.load #[0x00, 0xE0]).machine.replies actions =
        (stranded.load #[0x00, 0xE0]).machine.replies actions := by
  have halted : stranded.halted = true := by decide +kernel
  have called : stranded.stack.depth = 1 := by decide +kernel
  have random : (create (Random.ofSeed 0)).machine.random = stranded.random := by
    have undrawn : (create (Random.ofSeed 0)).machine.executions "Cxnn"
        [.load #[0x22, 0x04, 0x00, 0x00, 0xA0, 0x05, 0xD0, 0x15, 0x00, 0x00],
          .key (.press 7), .step, .step, .step, .step] = 0 := by
      decide +kernel
    rw [stranded, random_performAll, undrawn]
    rfl
  have large : 3584 < (Array.replicate 3585 (0 : UInt8)).size := by
    rw [Array.size_replicate]
    decide
  rcases load_forgets stranded (Array.replicate 3585 0) with ⟨_, refused, _⟩
  have unchanged : (stranded.load (Array.replicate 3585 0)).machine = stranded := by
    rw [(refused large).1]
  rcases load_forgets stranded #[0x00, 0xE0] with ⟨_, _, accepted, _⟩
  rcases accepted (by decide) with ⟨_, fresh, _, forgets⟩
  exact ⟨halted, called, unchanged, fresh.depth, (forgets _ random).2⟩

end ChipEight.Machine
