import ChipEight.Proofs.Microcode.Telling
import ChipEight.Proofs.Outcome
import ChipEight.Proofs.Records
import ChipEight.Proofs.Replies

/-!
# The log replays the run

The records of a machine are enough to follow it from outside.  A reader who notes the address of
every call, and strikes out the last one at every return, has the pending calls of the machine
before them; the words that are read are those of the steps on a running machine; and the error
records are those of the halts.

Each of the three is a fact about one action, by the cases of a step, which then adds up along a
run.  The reader starts anew at a reset, so a log may hold the records of earlier programs.
-/

namespace ChipEight

namespace Machine

open Notice Record

/-! ## What a run tells -/

/-- Everything that the actions of a run tell, in order. -/
def told : Machine → List Action → List Notice :=
  along fun machine action => (machine.perform action).notices

theorem told_cons (machine : Machine) (action : Action) (rest : List Action) :
    machine.told (action :: rest) =
      (machine.perform action).notices ++ (machine.perform action).machine.told rest :=
  rfl

/-- What is told in two parts of a run is told one after the other. -/
theorem told_append (machine : Machine) (first second : List Action) :
    machine.told (first ++ second) =
      machine.told first ++ (machine.performAll first).told second :=
  along_append ..

/-- The records of everything that a machine told since it was created. -/
def log (random : Random) (actions : List Action) : List Record :=
  records ((create random).notices ++ (create random).machine.told actions)

/-- One more action adds its records to the log. -/
theorem log_concat (random : Random) (actions : List Action) (action : Action) :
    log random (actions ++ [action]) =
      log random actions ++
        records (((create random).machine.performAll actions).perform action).notices := by
  rw [log, told_append, ← List.append_assoc, records_append, told_cons]
  exact congrArg (_ ++ records ·) (List.append_nil _)

/-- The records of a run at a level are those of its actions. -/
theorem ofLevel_told (level : Level) (machine : Machine) (actions : List Action) :
    ofLevel level (records (machine.told actions)) =
      along (fun machine action => ofLevel level (records (machine.perform action).notices)) machine
        actions := by
  induction actions generalizing machine with
  | nil => rfl
  | cons action rest later =>
      rw [told, along_cons, along_cons, records_append, ofLevel_append]
      exact congrArg _ (later _)

/-- The records of a new machine's log at a level are those of its actions, except for the reset
with which the machine was created. -/
theorem ofLevel_log {level : Level} (other : .debug ≠ level) (random : Random)
    (actions : List Action) :
    ofLevel level (log random actions) =
      along (fun machine action => ofLevel level (records (machine.perform action).notices))
        (create random).machine actions := by
  have created : ofLevel level (records (create random).notices) = [] :=
    ofLevel_singleton_of_ne other
  rw [log, records_append, ofLevel_append, created, List.nil_append, ofLevel_told]

/-- The microprograms of the actions tell the same, notice by notice. -/
theorem Bounded.after_foldl
    {machine : Machine} (bounded : machine.Bounded) (actions : List Action)
    (before : List Notice) :
    actions.foldl (fun state action => Micro.Telling.after (Micro.Telling.perform action) state)
        (machine, before) =
      (machine.performAll actions, before ++ machine.told actions) := by
  induction actions generalizing machine before with
  | nil => exact congrArg (Prod.mk _) (List.append_nil before).symm
  | cons action rest later =>
      rw [List.foldl_cons, Micro.Telling.after_perform bounded,
        later (bounded.perform action), performAll_cons, List.append_assoc]
      rfl

/-! ## What a step tells -/

section Step

variable {machine : Machine}

/-- A step that is carried out tells the fetch and then what the instruction tells. -/
theorem records_step_of_upcoming_ok
    {instruction : Instruction} (running : machine.halted = false)
    (upcoming : machine.upcoming = .ok instruction) :
    records machine.step.notices =
      records machine.fetchNotices ++ records (machine.executionNotices instruction) := by
  simp [step, running, upcoming, records_append]

/-- A step that fails tells the fetch, if there was one, and then the halt. -/
theorem records_step_of_upcoming_error
    {fault : Fault} (running : machine.halted = false)
    (upcoming : machine.upcoming = .error fault) :
    records machine.step.notices = records machine.fetchNotices ++ records [.halting fault] := by
  simp [step, running, upcoming, records_append]

/-- A fetch is told at the lowest level only. -/
theorem ofLevel_fetchNotices {level : Level} (other : .trace ≠ level) (machine : Machine) :
    ofLevel level (records machine.fetchNotices) = [] := by
  rw [fetchNotices]
  cases machine.fetch? with
  | none => rfl
  | some word => exact ofLevel_singleton_of_ne other

/-- An instruction tells at one level only. -/
theorem ofLevel_executionNotices
    {level : Level} (other : .debug ≠ level) (machine : Machine) (instruction : Instruction) :
    ofLevel level (records (machine.executionNotices instruction)) = [] := by
  cases instruction with
  | ret => exact ofLevel_singleton_of_ne other
  | call target => exact ofLevel_singleton_of_ne other
  | waitKey x =>
      rw [executionNotices]
      cases machine.keypad.first? with
      | none => rfl
      | some key => exact ofLevel_singleton_of_ne other
  | _ => rfl

theorem reset_not_mem_fetchNotices (machine : Machine) :
    Record.reset ∉ records machine.fetchNotices := by
  rw [fetchNotices]
  cases machine.fetch? with
  | none => exact List.not_mem_nil
  | some word => exact reset_not_mem_of_level .trace rfl (by decide)

/-- No instruction tells of a reset. -/
theorem reset_not_mem_executionNotices (machine : Machine) (instruction : Instruction) :
    Record.reset ∉ records (machine.executionNotices instruction) := by
  cases instruction with
  | ret => exact reset_not_mem_of_length (by simp [words_returned])
  | call target => exact reset_not_mem_of_length (by simp [words_called])
  | waitKey x =>
      rw [executionNotices]
      cases machine.keypad.first? with
      | none => exact List.not_mem_nil
      | some key => exact reset_not_mem_of_length (by simp [words_waitEnded])
  | _ => exact List.not_mem_nil

end Step

/-! ## The pending calls -/

/-- A reader who has the entries of the stack has them again after an instruction. -/
theorem Bounded.follow_executionNotices
    {machine : Machine} (bounded : machine.Bounded) {instruction : Instruction}
    (upcoming : machine.upcoming = .ok instruction) :
    (ofLevel .debug (records (machine.executionNotices instruction))).foldlM follow
        machine.stack.entries =
      some (machine.execute instruction).stack.entries := by
  rw [execute_stack]
  cases instruction with
  | ret =>
      have pending : 0 < machine.stack.depth :=
        (fault?_ret_eq_none_iff machine).mp (fault?_of_upcoming_ok upcoming)
      have split := machine.stack.entries_eq_append_top pending bounded.depth_le
      show follow machine.stack.entries
          (Notice.returned machine.pc machine.stack.top).record >>= some =
        some machine.stack.pop.entries
      rw [split, follow_returned]
      simp
  | call target =>
      have room : machine.stack.depth < CallStack.capacity :=
        (fault?_call_eq_none_iff machine target).mp (fault?_of_upcoming_ok upcoming)
      have short : machine.stack.entries.length < 16 := by
        rwa [machine.stack.length_entries bounded.depth_le]
      show follow machine.stack.entries
          (Notice.called target.toUInt16 machine.pc).record >>= some =
        some (machine.stack.push machine.pc).entries
      rw [follow_called, if_pos short, machine.stack.entries_push machine.pc room]
      rfl
  | waitKey x =>
      rw [executionNotices]
      cases machine.keypad.first? with
      | none => rfl
      | some key =>
          show follow machine.stack.entries (Notice.waitEnded key machine.pc).record >>= some = _
          rw [follow_waitEnded]
          rfl
  | _ => rfl

/-- A reader who has the entries of the stack has them again after a step. -/
theorem Bounded.replay_step
    {machine : Machine} (bounded : machine.Bounded) {log : List Record}
    (before : replay log = some machine.stack.entries) :
    replay (log ++ records machine.step.notices) = some machine.step.machine.stack.entries := by
  cases halted : machine.halted with
  | true =>
      rw [step_of_halted halted, records, List.map_nil, List.append_nil]
      exact before
  | false =>
      have fetchesOnly := reset_not_mem_fetchNotices machine
      cases upcoming : machine.upcoming with
      | error fault =>
          have halts : Record.reset ∉ records [.halting fault] :=
            reset_not_mem_of_level .error rfl (by decide)
          have noReset := List.not_mem_append fetchesOnly halts
          rw [records_step_of_upcoming_error halted upcoming, replay_append noReset before,
            ofLevel_append, ofLevel_fetchNotices (by decide),
            (step_of_upcoming_error halted upcoming).1]
          rfl
      | ok instruction =>
          have noReset := List.not_mem_append fetchesOnly
            (reset_not_mem_executionNotices machine instruction)
          rw [records_step_of_upcoming_ok halted upcoming, replay_append noReset before,
            ofLevel_append, ofLevel_fetchNotices (by decide),
            (step_of_upcoming_ok halted upcoming).1]
          exact bounded.follow_executionNotices upcoming

/-- A reader who has the entries of the stack has them again after any action. -/
theorem Bounded.replay_perform
    {machine : Machine} (bounded : machine.Bounded) (action : Action) {log : List Record}
    (before : replay log = some machine.stack.entries) :
    replay (log ++ records (machine.perform action).notices) =
      some (machine.perform action).machine.stack.entries := by
  cases action with
  | step => exact bounded.replay_step before
  | reset => exact replay_reset log
  | load program =>
      rw [Machine.perform]
      by_cases large : Memory.programCapacity < program.size
      · rw [load_of_lt large, records, List.map_nil, List.append_nil]
        exact before
      · have started : Record.reset ∉ records [.programLoaded program.size] :=
          reset_not_mem_of_level .info rfl (by decide)
        rw [load_of_le (Nat.not_lt.mp large)]
        show replay (log ++ ([Record.reset] ++ records [.programLoaded program.size])) = _
        rw [← List.append_assoc, replay_append started (replay_reset log)]
        rfl
  | key change =>
      rw [Machine.perform, records, List.map_nil, List.append_nil]
      exact before
  | takeRedraw =>
      rw [Machine.perform, records, List.map_nil, List.append_nil]
      exact before

theorem replay_log (random : Random) (actions : List Action) :
    replay (log random actions) =
      some ((create random).machine.performAll actions).stack.entries := by
  induction actions using List.reverseRecOn with
  | nil => exact replay_reset []
  | append_singleton actions action before =>
      have bounded : ((create random).machine.performAll actions).Bounded :=
        ((reachable_create random).performAll actions).bounded
      rw [log_concat, performAll_append]
      exact bounded.replay_perform action before

/-! ## The fetched words -/

/-- The address and the word that a step on a running machine finds at the program counter. -/
def traced (machine : Machine) : Action → List (UInt16 × Word)
  | .step =>
      if machine.halted = false ∧ machine.pc.toNat ≤ 0xFFE then
        [(machine.pc, Word.ofBytes (machine.memory.read machine.pc.toNat)
          (machine.memory.read (machine.pc.toNat + 1)))]
      else []
  | _ => []

/-- A running machine tells the word that it fetches first, and tells no other in that step. -/
theorem records_step_of_fetches
    {machine : Machine} {word : Word} (fetches : machine.Fetches word) :
    ∃ later, records machine.step.notices =
        ⟨.trace, Text.Hex.address machine.pc ++ ": " ++ word.text⟩ :: later ∧
      ofLevel .trace later = [] := by
  rcases (fetches_iff machine word).mp fetches with ⟨running, fetched⟩
  cases upcoming : machine.upcoming with
  | ok instruction =>
      rw [step_eq_of_upcoming_ok running fetched upcoming]
      exact ⟨_, rfl, ofLevel_executionNotices (by decide) machine instruction⟩
  | error fault =>
      rw [step_eq_of_upcoming_error running fetched upcoming]
      exact ⟨_, rfl, rfl⟩

/-- The trace records of a step read as the word at the program counter, if the machine runs and a
whole word is there. -/
theorem read_trace_step (machine : Machine) :
    (ofLevel .trace (records machine.step.notices)).map Record.fetch? =
      (machine.traced .step).map some := by
  cases halted : machine.halted with
  | true =>
      rw [step_of_halted halted, traced, if_neg (by simp [halted])]
      rfl
  | false =>
      by_cases inside : machine.pc.toNat ≤ 0xFFE
      · have fetched := (fetch?_eq_some_iff machine _).mpr ⟨inside, rfl⟩
        rcases records_step_of_fetches ((fetches_iff machine _).mpr ⟨halted, fetched⟩) with
          ⟨later, told, none⟩
        rw [told, traced, if_pos ⟨halted, inside⟩]
        show Record.fetch? (Notice.fetched _ _).record ::
            (ofLevel .trace later).map Record.fetch? = _
        rw [read_fetched, none]
        rfl
      · have missing := (fetch?_eq_none_iff machine).mpr (Nat.not_le.mp inside)
        rw [step_eq_of_fetch?_none halted missing, traced, if_neg fun here => inside here.2]
        rfl

/-- The trace records of an action read as the word that it fetches, if it does. -/
theorem read_trace_perform (machine : Machine) (action : Action) :
    (ofLevel .trace (records (machine.perform action).notices)).map Record.fetch? =
      (machine.traced action).map some := by
  cases action with
  | step => exact machine.read_trace_step
  | load program =>
      simp only [perform, load]
      split <;> rfl
  | reset => rfl
  | key change => rfl
  | takeRedraw => rfl

/-- The trace records of a run read as the words that its steps fetch. -/
theorem read_trace_log (random : Random) (actions : List Action) :
    (ofLevel .trace (log random actions)).map Record.fetch? =
      (along traced (create random).machine actions).map some := by
  rw [ofLevel_log (by decide)]
  generalize (create random).machine = machine
  induction actions generalizing machine with
  | nil => rfl
  | cons action rest later =>
      rw [along_cons, along_cons, List.map_append, List.map_append, later,
        read_trace_perform]

/-! ## The halts -/

/-- The action halts a machine that was running. -/
def Halts (machine : Machine) (action : Action) : Prop :=
  machine.halted = false ∧ (machine.perform action).machine.halted = true

instance (machine : Machine) (action : Action) : Decidable (machine.Halts action) :=
  inferInstanceAs (Decidable (machine.halted = false ∧
    (machine.perform action).machine.halted = true))

/-- How often a machine halts in a run. -/
def haltCount (machine : Machine) (actions : List Action) : Nat :=
  (along (fun machine action => if machine.Halts action then [action] else []) machine
    actions).length

/-- The error record of a fault that halts a machine. -/
def haltRecord (fault : Fault) : Record :=
  ⟨.error, "halting interpreter: " ++ fault.message⟩

/-- The action halts the machine with a fault and tells of it, once. -/
def TellsHalt (machine : Machine) (action : Action) : Prop :=
  ∃ fault, (machine.perform action).result = .error fault ∧
    ofLevel .error (records (machine.perform action).notices) = [haltRecord fault]

/-- The action tells of no fault. -/
def TellsNoHalt (machine : Machine) (action : Action) : Prop :=
  ofLevel .error (records (machine.perform action).notices) = []

/-- A step that ends with a fault tells of it. -/
theorem tellsHalt_of_upcoming_error
    {machine : Machine} {fault : Fault} (running : machine.halted = false)
    (upcoming : machine.upcoming = .error fault) : machine.TellsHalt .step := by
  refine ⟨fault, (step_of_upcoming_error running upcoming).2, ?_⟩
  show ofLevel .error (records machine.step.notices) = [haltRecord fault]
  rw [records_step_of_upcoming_error running upcoming, ofLevel_append,
    ofLevel_fetchNotices (by decide)]
  rfl

/-- A step that is carried out tells of no fault. -/
theorem tellsNoHalt_of_upcoming_ok
    {machine : Machine} {instruction : Instruction} (running : machine.halted = false)
    (upcoming : machine.upcoming = .ok instruction) : machine.TellsNoHalt .step := by
  show ofLevel .error (records machine.step.notices) = []
  rw [records_step_of_upcoming_ok running upcoming, ofLevel_append,
    ofLevel_fetchNotices (by decide), ofLevel_executionNotices (by decide)]
  rfl

/-- A step of a halted machine tells of no fault. -/
theorem tellsNoHalt_of_halted
    {machine : Machine} (halted : machine.halted = true) : machine.TellsNoHalt .step := by
  show ofLevel .error (records machine.step.notices) = []
  rw [step_of_halted halted]
  rfl

/-- A step halts a running machine exactly if it ends with a fault. -/
theorem halts_step_iff {machine : Machine} (running : machine.halted = false) :
    machine.Halts .step ↔ ∃ fault, machine.upcoming = .error fault := by
  show machine.halted = false ∧ machine.step.machine.halted = true ↔ _
  cases upcoming : machine.upcoming with
  | error fault => simp [(step_of_upcoming_error running upcoming).1, running]
  | ok instruction =>
      have runs : (machine.execute instruction).tick.halted = false :=
        (execute_halted machine instruction).trans running
      simp [(step_of_upcoming_ok running upcoming).1, runs]

/-- A machine that is halted after an action other than a step was halted before. -/
theorem halted_of_ne_step
    {machine : Machine} {action : Action} (other : action ≠ .step)
    (stopped : (machine.perform action).machine.halted = true) : machine.halted = true := by
  cases action with
  | step => exact absurd rfl other
  | load program =>
      by_cases large : Memory.programCapacity < program.size
      · rwa [perform, load_of_lt large] at stopped
      · rw [perform, load_of_le (Nat.not_lt.mp large)] at stopped
        cases stopped
  | reset => cases stopped
  | key change => exact stopped
  | takeRedraw => exact stopped

/-- An action other than a step tells of no fault. -/
theorem tellsNoHalt_of_ne_step
    (machine : Machine) {action : Action} (other : action ≠ .step) :
    machine.TellsNoHalt action := by
  cases action with
  | step => exact absurd rfl other
  | load program =>
      simp only [TellsNoHalt, perform, load]
      split <;> rfl
  | reset => rfl
  | key change => rfl
  | takeRedraw => rfl

/-- An action tells its fault if it halts the machine. -/
theorem Halts.tells
    {machine : Machine} {action : Action} (halts : machine.Halts action) :
    machine.TellsHalt action := by
  by_cases steps : action = .step
  · subst steps
    rcases (halts_step_iff halts.1).mp halts with ⟨fault, upcoming⟩
    exact tellsHalt_of_upcoming_error halts.1 upcoming
  · cases halts.1.symm.trans (halted_of_ne_step steps halts.2)

/-- An action that does not halt the machine tells of no fault. -/
theorem tellsNoHalt_of_not_halts
    {machine : Machine} {action : Action} (goesOn : ¬ machine.Halts action) :
    machine.TellsNoHalt action := by
  by_cases steps : action = .step
  · subst steps
    cases halted : machine.halted with
    | true => exact tellsNoHalt_of_halted halted
    | false =>
        cases upcoming : machine.upcoming with
        | error fault => exact absurd ((halts_step_iff halted).mpr ⟨fault, upcoming⟩) goesOn
        | ok instruction => exact tellsNoHalt_of_upcoming_ok halted upcoming
  · exact machine.tellsNoHalt_of_ne_step steps

/-- A log tells of as many faults as its run has halts. -/
theorem length_ofLevel_error_log (random : Random) (actions : List Action) :
    (ofLevel .error (log random actions)).length =
      (create random).machine.haltCount actions := by
  rw [ofLevel_log (by decide), haltCount]
  generalize (create random).machine = machine
  induction actions generalizing machine with
  | nil => rfl
  | cons action rest later =>
      rw [along_cons, along_cons, List.length_append, List.length_append, later]
      apply congrArg (· + _)
      by_cases halts : machine.Halts action
      · rcases halts.tells with ⟨fault, _, told⟩
        rw [told, if_pos halts]
        rfl
      · rw [tellsNoHalt_of_not_halts halts, if_neg halts]
        rfl

/--
The log replays the run.  Whatever is done to a new machine, the records since its last reset never
contradict a reader of their texts who adds `P` at each `call T from P` and strikes it out at each
`return from Q to P`, and the reader's list is the stack.  The trace records of the log read as the
addresses and words of the steps that find a word on a running machine, one each, and such a step
tells it before anything else.  The error records of the log are as many as the halts, one each with
the fault of the halt, and a halted machine tells nothing in a step.  The microprograms, which tell
everything at its own place, tell what the log records.
-/
theorem log_replays_run (random : Random) (actions : List Action) :
    let created := create random
    let machine := created.machine.performAll actions
    (replay (log random actions) = some machine.stack.entries ∧
      machine.stack.entries.length = machine.stack.depth) ∧
    ((ofLevel .trace (log random actions)).map Record.fetch? =
        (along traced created.machine actions).map some ∧
      (machine.halted = false → machine.pc.toNat ≤ 0xFFE →
        ∃ word later, machine.Fetches word ∧
          records machine.step.notices =
            ⟨.trace, Text.Hex.address machine.pc ++ ": " ++ word.text⟩ :: later ∧
          ofLevel .trace later = [])) ∧
    ((ofLevel .error (log random actions)).length = created.machine.haltCount actions ∧
      (∀ action,
        (machine.Halts action → ∃ fault, (machine.perform action).result = .error fault ∧
          ofLevel .error (records (machine.perform action).notices) = [haltRecord fault]) ∧
        (¬ machine.Halts action →
          ofLevel .error (records (machine.perform action).notices) = [])) ∧
      (machine.halted = true → machine.step.notices = [])) ∧
    ∃ notices, log random actions = records notices ∧
      actions.foldl (fun state action => Micro.Telling.after (Micro.Telling.perform action) state)
          (created.machine, created.notices) =
        (machine, notices) := by
  intro created machine
  have bounded : machine.Bounded := ((reachable_create random).performAll actions).bounded
  refine ⟨⟨replay_log random actions, machine.stack.length_entries bounded.depth_le⟩,
    ⟨read_trace_log random actions, ?_⟩,
    ⟨length_ofLevel_error_log random actions,
      fun action => ⟨Halts.tells, tellsNoHalt_of_not_halts⟩, ?_⟩,
    ⟨_, rfl, (bounded_start #[] random).after_foldl actions _⟩⟩
  · intro running inside
    have fetched := (fetch?_eq_some_iff machine _).mpr ⟨inside, rfl⟩
    have fetches := (fetches_iff machine _).mpr ⟨running, fetched⟩
    rcases records_step_of_fetches fetches with ⟨later, told, none⟩
    exact ⟨_, later, fetches, told, none⟩
  · intro halted
    rw [step_of_halted halted]

/-- Two calls, one return, an unknown word, and a step of the halted machine. -/
def interrupted : List Action :=
  [.load #[0x22, 0x04, 0x00, 0x00, 0x22, 0x08, 0x00, 0x00, 0x00, 0xEE],
    .step, .step, .step, .step, .step]

theorem log_replays_run_interrupted :
    let before := (create (Random.ofSeed 0)).machine.performAll (interrupted.take 4)
    let after := (create (Random.ofSeed 0)).machine.performAll interrupted
    replay (log (Random.ofSeed 0) interrupted) = some [0x200] ∧
      (ofLevel .error (log (Random.ofSeed 0) interrupted)).length = 1 ∧
      (∃ word, before.Fetches word) ∧
      (∃ fault, ofLevel .error (records before.step.notices) = [haltRecord fault]) ∧
      after.step.notices = [] := by
  intro before after
  have entries : after.stack.entries = [0x200] := by decide +kernel
  have halts : (create (Random.ofSeed 0)).machine.haltCount interrupted = 1 := by
    decide +kernel
  rcases log_replays_run (Random.ofSeed 0) interrupted with
    ⟨⟨replayed, _⟩, _, ⟨told, _, silent⟩, _⟩
  rcases log_replays_run (Random.ofSeed 0) (interrupted.take 4) with
    ⟨_, ⟨_, traces⟩, ⟨_, faults, _⟩, _⟩
  rcases traces (by decide +kernel) (by decide +kernel) with ⟨word, _, fetches, _⟩
  rcases (faults .step).1 (by decide +kernel) with ⟨fault, _, halting⟩
  exact ⟨replayed.trans (congrArg some entries), told.trans halts, ⟨word, fetches⟩,
    ⟨fault, halting⟩, silent (by decide +kernel)⟩

end Machine

end ChipEight
