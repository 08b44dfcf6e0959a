import ChipEight.Proofs.Footprint

/-!
# The random bytes of a lifetime

The source of a machine yields one byte after the other, for as long as the machine is there.  The
next byte goes to the next step that carries out a word which asks for one, whatever its mask; no
other action draws a byte, and no start of a program goes back to the first one.  So the number of
such steps since the machine was made says which byte the next of them gets.

What the bytes are does not matter.  A seed may fix any stream, in whatever way, and the machine
that is made with the seed reads that stream from its start.
-/

namespace ChipEight

/-- The source after so many more bytes were drawn. -/
def Random.after (random : Random) (count : Nat) : Random :=
  { random with drawn := random.drawn + count }

theorem Random.rest_eq_after (random : Random) : random.rest = random.after 1 :=
  rfl

theorem Random.after_after (random : Random) (first second : Nat) :
    (random.after first).after second = random.after (first + second) :=
  congrArg (Random.mk random.stream) (Nat.add_assoc random.drawn first second)

/-- A source of which so many bytes were drawn yields the byte with that number next. -/
theorem Random.next_after_ofStream (stream : Nat → UInt8) (count : Nat) :
    ((Random.ofStream stream).after count).next = stream count :=
  congrArg stream (Nat.zero_add count)

namespace Machine

/-- How many steps of a run carry out a word of the pattern. -/
def executions (pattern : String) : Machine → List Action → Nat
  | _, [] => 0
  | machine, action :: rest =>
      (if machine.Executes pattern action then 1 else 0) +
        executions pattern (machine.perform action).machine rest

/-! ## One action -/

/-- A step on a word that asks for a random byte succeeds and stores the next one, masked. -/
theorem step_of_random
    {machine : Machine} {word : Word} (fetches : machine.Fetches word)
    (asks : word.Matches "Cxnn") :
    machine.step.result = .ok () ∧ machine.step.machine.random = machine.random.rest ∧
      machine.step.machine.registers.get word.x = machine.random.next &&& word.nn := by
  have decoded := (word.matches_iff "Cxnn" (.random word.x word.nn)).mp asks
  rcases step_of_fetches fetches decoded rfl with ⟨carried, succeeded⟩
  refine ⟨succeeded, ?_, ?_⟩
  · rw [carried]
    rfl
  · rw [carried]
    show (machine.execute (.random word.x word.nn)).registers.get word.x = _
    rw [execute_registers]
    simp [setRegister]

/-- A step draws a byte if it carries out a word that asks for one, and otherwise none. -/
theorem random_step (machine : Machine) :
    machine.step.machine.random =
      if machine.Executes "Cxnn" .step then machine.random.rest else machine.random := by
  cases result : machine.step.result with
  | error fault =>
      have failed : ¬ machine.Executes "Cxnn" .step := by
        rintro ⟨succeeded, _⟩
        rw [result] at succeeded
        cases succeeded
      rw [if_neg failed, step_machine_of_fault result]
  | ok =>
      rcases fetched_of_step_ok result with ⟨word, fetched⟩
      simp only [executes_step_iff result fetched]
      split
      case isTrue asks =>
        have running := ((step_result_ok_iff machine).mp result).1
        have fetches : machine.Fetches word := (fetches_iff machine word).mpr ⟨running, fetched⟩
        exact (step_of_random fetches asks).2.1
      case isFalse other => exact (footprint_step result fetched).random other

/-- No action but such a step draws a byte, or puts one back. -/
theorem random_perform (machine : Machine) (action : Action) :
    (machine.perform action).machine.random =
      if machine.Executes "Cxnn" action then machine.random.rest else machine.random := by
  cases action with
  | load program =>
      have quiet : ¬ machine.Executes "Cxnn" (.load program) := not_false
      rw [if_neg quiet, perform]
      by_cases large : Memory.programCapacity < program.size
      · rw [load_of_lt large]
      · rw [load_of_le (Nat.not_lt.mp large)]
        rfl
  | reset => rfl
  | step => exact random_step machine
  | key change => rfl
  | takeRedraw => rfl

/-- An action whose microprogram fails leaves the source as it was, also inside the microprogram. -/
theorem random_of_failed_run
    {machine later : Machine} {action : Action} {fault : Fault} (bounded : machine.Bounded)
    (failed : (Micro.perform action).run machine = .error (.fault fault) later) :
    later.random = machine.random := by
  rw [Micro.run_perform bounded] at failed
  cases result : (machine.perform action).result with
  | ok =>
      rw [result] at failed
      cases failed
  | error other =>
      rw [result] at failed
      cases failed
      rw [random_perform, if_neg]
      cases action with
      | step =>
          rintro ⟨succeeded, _⟩
          exact nomatch result.symm.trans succeeded
      | _ => exact not_false

/-! ## A lifetime -/

/-- After a run the source has yielded one byte for each step that asked for one. -/
theorem random_performAll (machine : Machine) (actions : List Action) :
    (machine.performAll actions).random =
      machine.random.after (machine.executions "Cxnn" actions) := by
  induction actions generalizing machine with
  | nil => rfl
  | cons action rest later =>
      rw [performAll_cons, later, random_perform, executions]
      split
      case isTrue asked => rw [Random.rest_eq_after, Random.after_after]
      case isFalse other => rw [Nat.zero_add]

/--
The random bytes of a lifetime come in the order of the source, whichever stream of bytes the seed
fixes.  After any actions on a machine that was made with the seed, starts of programs and failures
included, as many bytes of the stream were drawn as steps carried out a word that asks for one.
Such a step never fails, and the byte that it stores, masked by its word, is the one of the stream
whose number is the count of such steps before it.

Every single action draws one byte or none, and one that fails draws none: neither does its
microprogram, which has done nothing to the source when it stops.
-/
theorem random_bytes_in_order
    (bytes : UInt64 → Nat → UInt8) (seed : UInt64) (actions : List Action) :
    let created := (create (Random.ofStream (bytes seed))).machine
    let machine := created.performAll actions
    let asked := created.executions "Cxnn" actions
    machine.random = (Random.ofStream (bytes seed)).after asked ∧
      (∀ word, machine.Fetches word → word.Matches "Cxnn" →
        machine.step.result = .ok () ∧
          machine.step.machine.registers.get word.x = bytes seed asked &&& word.nn) ∧
      ∀ action,
        ((machine.perform action).machine.random =
          if machine.Executes "Cxnn" action then (Random.ofStream (bytes seed)).after (asked + 1)
          else (Random.ofStream (bytes seed)).after asked) ∧
        ∀ fault later, (Micro.perform action).run machine = .error (.fault fault) later →
          later.random = machine.random := by
  intro created machine asked
  have source : machine.random = (Random.ofStream (bytes seed)).after asked :=
    random_performAll created actions
  have bounded : machine.Bounded := ((reachable_create _).performAll actions).bounded
  refine ⟨source, ?_, ?_⟩
  · intro word fetches asks
    rcases step_of_random fetches asks with ⟨succeeded, _, stored⟩
    rw [source, Random.next_after_ofStream] at stored
    exact ⟨succeeded, stored⟩
  · intro action
    constructor
    · rw [random_perform, source, Random.rest_eq_after, Random.after_after]
    · intro fault later failed
      exact random_of_failed_run bounded failed

/-- Two bytes drawn, one of them for an empty mask, then a fault, a reset and another program. -/
def rolling : List Action :=
  [.load #[0xC0, 0xFF, 0xC1, 0x00, 0x00, 0x00], .step, .step, .step, .step, .reset,
    .load #[0xC2, 0x0F]]

/-- A machine about to draw the third byte of its lifetime. -/
def rolled : Machine :=
  (create (Random.ofStream (Random.bytesOfSeed 7))).machine.performAll rolling

/-- After two draws, the third byte of the stream goes into a register. -/
theorem random_bytes_in_order_rolled :
    rolled.random = (Random.ofStream (Random.bytesOfSeed 7)).after 2 ∧
      rolled.step.machine.registers.get 2 = Random.bytesOfSeed 7 2 &&& 0x0F := by
  have asked :
      (create (Random.ofStream (Random.bytesOfSeed 7))).machine.executions "Cxnn" rolling = 2 := by
    decide +kernel
  have fetches : rolled.Fetches ⟨0xC20F⟩ := by decide +kernel
  have register : Word.x ⟨0xC20F⟩ = 2 := by decide
  have mask : Word.nn ⟨0xC20F⟩ = 0x0F := by decide
  rcases random_bytes_in_order Random.bytesOfSeed 7 rolling with ⟨source, stores, _⟩
  rcases stores ⟨0xC20F⟩ fetches (by decide) with ⟨_, stored⟩
  rw [asked] at source stored
  rw [register, mask] at stored
  rw [rolled]
  exact ⟨source, stored⟩

end Machine

end ChipEight
