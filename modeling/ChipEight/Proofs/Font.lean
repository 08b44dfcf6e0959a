import ChipEight.Proofs.Footprint
import ChipEight.Proofs.Halting
import ChipEight.Proofs.History

/-!
# How long the font lasts

A start of the machine writes the font to the bottom of memory, and nothing protects it there: the
two instructions that store bytes check only that they stay below the end of memory.  A program may
thus overwrite the font, and then an index that points at a glyph points at something else.

Nothing but such a store changes a byte, so each byte of the font stays until a store to its own
address, and the next start brings it back.
-/

namespace ChipEight.Machine

/-- The byte at the address is that of the font. -/
def HoldsFont (machine : Machine) (address : Nat) : Prop :=
  Memory.font[address]? = some (machine.memory.read address)

/-- The action is a successful step that stores a byte at the address. -/
def StoresAt (address : Nat) (machine : Machine) : Action → Prop
  | .step => machine.step.result = .ok () ∧ ∃ word ∈ machine.fetch?, machine.Stores word address
  | _ => False

instance (address : Nat) (machine : Machine) :
    (action : Action) → Decidable (StoresAt address machine action)
  | .step => inferInstanceAs (Decidable (machine.step.result = .ok () ∧
      ∃ word ∈ machine.fetch?, machine.Stores word address))
  | .load _ | .reset | .key _ | .takeRedraw => inferInstanceAs (Decidable False)

/-- The run stored a byte at the address and did not start the machine again since. -/
def Overwritten (random : Random) (actions : List Action) (address : Nat) : Prop :=
  Outstanding (StoresAt address) (fun _ action => action.restarts = true) (create random).machine
    actions

instance (random : Random) (actions : List Action) (address : Nat) :
    Decidable (Overwritten random actions address) :=
  inferInstanceAs (Decidable (Outstanding (StoresAt address)
    (fun _ action => action.restarts = true) (create random).machine actions))

/-- Every start writes the font, whatever the program. -/
theorem holdsFont_start
    {address : Nat} (inside : address < Memory.font.length) (program : Array UInt8)
    (random : Random) : (start program random).HoldsFont address := by
  have low : address < Memory.programStart := Nat.lt_of_lt_of_le inside (by decide)
  have found : Memory.font[address]? = some Memory.font[address] := List.getElem?_eq_getElem inside
  simp [HoldsFont, start, low, found]

/-- A byte that an action changes is stored by it, or the action starts the machine. -/
theorem read_perform
    {machine : Machine} {action : Action} {address : Nat}
    (continues : ¬ action.restarts = true) (other : ¬ machine.StoresAt address action) :
    (machine.perform action).machine.memory.read address = machine.memory.read address := by
  cases action with
  | load program =>
      have refused : Memory.programCapacity < program.size := by
        simpa [Action.restarts] using continues
      simp [perform, load, refused]
  | reset => exact absurd rfl continues
  | step =>
      show machine.step.machine.memory.read address = _
      cases result : machine.step.result with
      | error fault => rw [step_machine_of_fault result]
      | ok =>
          rcases fetched_of_step_ok result with ⟨word, fetched⟩
          exact (footprint_step result fetched).bytes address fun stores =>
            other ⟨result, word, fetched, stores⟩
  | key change => rfl
  | takeRedraw => rfl

/-- A byte of the font that no store reached since the last start is as it was. -/
theorem holdsFont_of_not_overwritten
    {random : Random} {actions : List Action} {address : Nat}
    (inside : address < Memory.font.length) (intact : ¬ Overwritten random actions address) :
    ((create random).machine.performAll actions).HoldsFont address := by
  refine Classical.byContradiction fun lost => ?_
  have begins (machine : Machine) (action : Action) (_ : machine.Bounded)
      (lostAfter : ¬ (machine.perform action).machine.HoldsFont address) :
      machine.StoresAt address action ∨
        (¬ machine.HoldsFont address ∧ ¬ action.restarts = true) := by
    by_cases restarts : action.restarts = true
    · rcases perform_of_restarts restarts machine with ⟨program, started, _⟩
      rw [started] at lostAfter
      exact absurd (holdsFont_start inside program machine.random) lostAfter
    · by_cases stores : machine.StoresAt address action
      · exact Or.inl stores
      · rw [HoldsFont, read_perform restarts stores] at lostAfter
        exact Or.inr ⟨lostAfter, restarts⟩
  rcases outstanding_of_performAll (fun machine => ¬ machine.HoldsFont address) begins
      (bounded_start #[] random) lost with ⟨lostAtFirst, _⟩ | overwritten
  · exact lostAtFirst (holdsFont_start inside #[] random)
  · exact intact overwritten

/-- Pointing at a glyph always succeeds and leaves memory alone. -/
theorem Bounded.step_of_pointGlyph
    {machine : Machine} (bounded : machine.Bounded) {word : Word}
    (fetches : machine.Fetches word) (points : word.Matches "Fx29") :
    machine.step.result = .ok () ∧
      machine.step.machine.index.toNat =
        (machine.registers.get word.x).toNat % 16 * Memory.glyphSize ∧
      machine.step.machine.memory = machine.memory := by
  have upcoming : machine.upcoming = .ok (.pointGlyph word.x) :=
    upcoming_of_fetches fetches ((word.matches_iff "Fx29" (.pointGlyph word.x)).mp points) rfl
  rcases step_of_upcoming_ok fetches.1 upcoming with ⟨carried, succeeded⟩
  rw [carried]
  exact ⟨succeeded, bounded.toNat_execute_index upcoming, execute_memory machine _⟩

/--
The font lasts until it is overwritten.  Whatever was done to a new machine, each byte of the font
is in its place unless a successful step stored at its address and the machine was not started again
since.  Pointing the index at a glyph always succeeds, leaves memory alone and points at the place
of the glyph, and each of the five bytes there that was not overwritten is that of the glyph.
-/
theorem font_kept_unless_stored (random : Random) (actions : List Action) :
    let machine := (create random).machine.performAll actions
    (∀ address < 80, ¬ Overwritten random actions address →
        Memory.font[address]? = some (machine.memory.read address)) ∧
      ∀ word, machine.Fetches word → word.Matches "Fx29" →
        let glyph := (machine.registers.get word.x).toNat % 16 * 5
        machine.step.result = .ok () ∧ machine.step.machine.memory = machine.memory ∧
          machine.step.machine.index.toNat = glyph ∧
          ∀ line < 5, ¬ Overwritten random actions (glyph + line) →
            Memory.font[glyph + line]? =
              some (machine.step.machine.memory.read (glyph + line)) := by
  intro machine
  refine ⟨fun address inside intact => holdsFont_of_not_overwritten inside intact, ?_⟩
  intro word fetches points glyph
  have reachable : machine.Reachable := ⟨random, actions, rfl⟩
  rcases reachable.bounded.step_of_pointGlyph fetches points with ⟨succeeded, index, memory⟩
  refine ⟨succeeded, memory, index, ?_⟩
  intro line below intact
  have inside : glyph + line < Memory.font.length := by
    have digit : (machine.registers.get word.x).toNat % 16 < 16 := Nat.mod_lt _ (by decide)
    simp only [Memory.length_font, Memory.glyphSize, glyph]
    omega
  rw [memory]
  exact holdsFont_of_not_overwritten inside intact

/-- A program that stores a zero over the first byte of the font and then points at its glyph. -/
def overwriting : List Action :=
  [.load #[0xA0, 0x00, 0xF0, 0x55, 0xF0, 0x29], .step, .step]

/-- After a store over the first byte of the font, the second one is still that of the font. -/
theorem font_kept_unless_stored_overwriting :
    let machine := (create (Random.ofSeed 0)).machine.performAll overwriting
    ¬ Overwritten (Random.ofSeed 0) overwriting 1 ∧
      Memory.font[1]? = some (machine.memory.read 1) ∧ machine.Fetches ⟨0xF029⟩ ∧
        machine.step.machine.index.toNat = 0 := by
  intro machine
  have intact : ¬ Overwritten (Random.ofSeed 0) overwriting 1 := by decide +kernel
  have fetches : machine.Fetches ⟨0xF029⟩ := by decide +kernel
  have points : Word.Matches ⟨0xF029⟩ "Fx29" := by decide
  rcases font_kept_unless_stored (Random.ofSeed 0) overwriting with ⟨kept, glyph⟩
  rcases glyph _ fetches points with ⟨_, _, index, _⟩
  have digit : (machine.registers.get (Word.x ⟨0xF029⟩)).toNat % 16 * 5 = 0 := by decide +kernel
  refine ⟨intact, kept 1 (by decide) intact, fetches, ?_⟩
  rw [index]
  exact digit

/-- The font is not always kept: this program leaves a zero where the glyph of `0` began. -/
theorem font_overwritten :
    let machine := (create (Random.ofSeed 0)).machine.performAll overwriting
    machine.Reachable ∧ machine.step.result = .ok () ∧ machine.step.machine.index = 0 ∧
      Memory.font[0]? = some 0xF0 ∧ machine.step.machine.memory.read 0 = 0 ∧
      ¬ ∀ other : Machine, other.Reachable →
        ∀ address < 80, Memory.font[address]? = some (other.memory.read address) := by
  intro machine
  have reachable : machine.Reachable := ⟨_, _, rfl⟩
  have first : Memory.font[0]? ≠ some (machine.memory.read 0) := by decide +kernel
  refine ⟨reachable, by decide +kernel, by decide +kernel, rfl, by decide +kernel, ?_⟩
  intro kept
  exact first (kept machine reachable 0 (by decide))

end ChipEight.Machine
