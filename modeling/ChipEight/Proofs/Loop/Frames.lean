import ChipEight.Proofs.Drawing
import ChipEight.Proofs.Loop.Turn

/-!
# The frames that a loop sends

A host that stays to take frames gets one after each successful step that draws, as the screen is
right after that step, and none after the others.  If a frame was due when the loop began, the first
successful step sends one in any case.

`Delivers` says this of a part of a loop together with what the induction over the turns needs: the
frame on the screen is the last one sent, and no frame is due any more.
-/

namespace ChipEight.Emulator

/-- The frames to send after successful steps of these machines, if a frame may be due before. -/
def deliveries (due : Bool) : List Machine → List Frame
  | [] => []
  | first :: rest =>
      ((if due || first.draws then [first] else []) ++ rest.filter Machine.draws).map
        (·.step.machine.screen.frame)

/-- Whatever is due before a step is sent after it, together with what the step draws. -/
theorem deliveries_cons (due : Bool) (first : Machine) (rest : List Machine) :
    deliveries due (first :: rest) =
      (if due || first.draws then [first.step.machine.screen.frame] else []) ++
        deliveries false rest := by
  have later : deliveries false rest =
      (rest.filter Machine.draws).map (·.step.machine.screen.frame) := by
    cases rest with
    | nil => rfl
    | cons second others =>
        cases draws : second.draws <;> simp [deliveries, draws]
  rw [later, deliveries, List.map_append]
  split <;> rfl

/-! ## What a part of a loop delivers -/

/-- The successful steps of these machines sent their frames, and the last frame sent is the one on
the screen. -/
structure Delivers (before : Emulator) (steps : List Machine) (after : Emulator) : Prop where
  frames : after.frames = before.frames ++ deliveries before.machine.screen.redraw steps
  shown : after.machine.screen.frame =
    (deliveries before.machine.screen.redraw steps).getLast?.getD before.machine.screen.frame
  settled : after.machine.screen.redraw = (before.machine.screen.redraw && steps.isEmpty)

theorem delivers_nothing
    {before after : Emulator} (frames : after.frames = before.frames)
    (screen : after.machine.screen = before.machine.screen) : Delivers before [] after where
  frames := by rw [frames, deliveries, List.append_nil]
  shown := by rw [screen]; rfl
  settled := by rw [screen, List.isEmpty_nil, Bool.and_true]

theorem Delivers.cons
    {before between after : Emulator} {first : Machine} {rest : List Machine}
    (turn : Delivers before [first] between) (later : Delivers between rest after) :
    Delivers before (first :: rest) after := by
  have clear : between.machine.screen.redraw = false := by
    rw [turn.settled, List.isEmpty_cons, Bool.and_false]
  have split : deliveries before.machine.screen.redraw (first :: rest) =
      deliveries before.machine.screen.redraw [first] ++
        deliveries between.machine.screen.redraw rest := by
    rw [deliveries_cons, deliveries_cons, clear]
    simp [deliveries]
  constructor
  · rw [later.frames, turn.frames, split, List.append_assoc]
  · rw [later.shown, turn.shown, split, List.getLast?_append]
    cases (deliveries between.machine.screen.redraw rest).getLast? <;> rfl
  · rw [later.settled, clear, List.isEmpty_cons, Bool.and_false, Bool.false_and]

/-- A turn with a successful step sends the frame of that step if it is due, and goes on. -/
theorem turn_delivers
    {emulator : Emulator} {arrivals : Arrivals} (listens : emulator.displayListens = true)
    (stays : HostEvent.leaveDisplay ∉ arrivals.events)
    (continues : (emulator.ready arrivals).wantsQuit = false)
    (succeeded : (emulator.ready arrivals).machine.step.result = .ok ()) :
    (emulator.turn arrivals).progress = .running ∧
      (emulator.turn arrivals).emulator.displayListens = true ∧
      Delivers emulator [(emulator.ready arrivals).machine] (emulator.turn arrivals).emulator := by
  have listening : (emulator.presenting arrivals).displayListens = true := by
    rw [displayListens_presenting, listens, Bool.true_and]
    exact decide_eq_true stays
  have screen := screen_ready emulator arrivals
  have due : (emulator.presenting arrivals).machine.screen.redraw =
      (emulator.machine.screen.redraw || (emulator.ready arrivals).machine.draws) := by
    rw [machine_presenting, Machine.redraw_step succeeded, screen, Bool.or_comm]
  rcases turn_of_step continues succeeded with ⟨progress, after⟩
  refine ⟨?_, ?_, ?_, ?_, ?_⟩
  · rw [progress, progress_present, displayLeft_of_displayListens listening, Bool.and_false]
    rfl
  · rw [after, displayListens_present, listening]
  · rw [after, frames_present, frames_presenting, listening, Bool.and_true, due, deliveries_cons]
    simp [deliveries]
  · rw [after, machine_present, deliveries_cons]
    cases drawn : emulator.machine.screen.redraw || (emulator.ready arrivals).machine.draws with
    | true => simp [deliveries, Machine.withRedraw]
    | false =>
        have other := (Bool.or_eq_false_iff.mp drawn).2
        simp [deliveries, Machine.withRedraw, Machine.screen_step_of_not_draws succeeded other,
          screen]
  · rw [after, machine_present, List.isEmpty_cons, Bool.and_false]
    rfl

/-- A display that listens throughout gets the frames that are drawn, and only those. -/
theorem turns_delivers
    {emulator : Emulator} (listens : emulator.displayListens = true) {schedule : List Arrivals}
    (stays : ∀ arrivals ∈ schedule, HostEvent.leaveDisplay ∉ arrivals.events) :
    Delivers emulator (emulator.steppedMachines schedule) (emulator.turns schedule).emulator := by
  induction schedule generalizing emulator with
  | nil => exact delivers_nothing rfl rfl
  | cons arrivals rest later =>
      rcases stepOf_cases emulator arrivals with
        ⟨continues, succeeded, step⟩ | ⟨noStep, ended, machine, frames⟩
      · rcases turn_delivers listens (stays arrivals List.mem_cons_self) continues succeeded with
          ⟨running, stillListens, delivers⟩
        rw [turns_cons_of_running running, steppedMachines, gather_cons_of_running _ running, step]
        exact delivers.cons
          (later stillListens fun other member => stays other (List.mem_cons_of_mem _ member))
      · rw [turns_cons_of_ended ended, steppedMachines, gather_cons_of_ended _ ended, noStep]
        refine delivers_nothing frames ?_
        rcases machine with kept | ⟨fault, failed, halted⟩
        · rw [kept, screen_ready]
        · rw [halted, Machine.screen_step_of_fault failed, screen_ready]

/--
The frames of a loop whose host stays to take them.  In order and one each, they are the frames
right after the successful steps that drew, and right after the first successful step also if a
frame was due when the loop began; no other frame is sent.  Once a step succeeded no frame is due
after any turn, also if the loop then stopped or failed, and if one was due when the loop began the
last frame sent is the one on the screen.
-/
theorem mainLoop_sends_drawn_frames
    {emulator : Emulator} (listens : emulator.displayListens = true) {schedule : List Arrivals}
    (stays : ∀ arrivals ∈ schedule, HostEvent.leaveDisplay ∉ arrivals.events) :
    let made := emulator.mainLoop schedule
    let steps := emulator.steppedMachines schedule
    let sent := deliveries emulator.machine.screen.redraw steps
    made.emulator.frames = emulator.frames ++ sent ∧
      (steps ≠ [] → made.emulator.machine.screen.redraw = false) ∧
      (steps ≠ [] → emulator.machine.screen.redraw = true →
        sent.getLast? = some made.emulator.machine.screen.frame) := by
  intro made steps sent
  have delivers : Delivers emulator steps made.emulator := turns_delivers listens stays
  refine ⟨delivers.frames, ?_, ?_⟩
  · intro stepped
    rw [delivers.settled, List.isEmpty_eq_false_iff.mpr stepped, Bool.and_false]
  · intro stepped due
    have shown := delivers.shown
    cases firstStep : steps with
    | nil => exact absurd firstStep stepped
    | cons first rest =>
        have nonempty : sent ≠ [] := by
          show deliveries emulator.machine.screen.redraw steps ≠ []
          rw [firstStep, deliveries_cons, due]
          nofun
        rw [List.getLast?_eq_some_getLast nonempty] at shown ⊢
        rw [shown]
        rfl

/-- A linked emulator whose program draws the glyph of 0, clears the screen and then fails to
return. -/
def flashing : Emulator :=
  (create
    ((Machine.create (Random.ofSeed 0)).machine.load
      #[0xA0, 0x00, 0xD0, 0x05, 0x00, 0xE0, 0x00, 0xEE]).machine
    Settings.default).connect

/-- The blank frame of the start, the glyph and the blank frame after it. -/
theorem mainLoop_sends_drawn_frames_flashing :
    flashing.displayListens = true ∧
      (flashing.mainLoop (List.replicate 4 .none)).progress = .failed (.stackUnderflow 0x206) ∧
      (flashing.mainLoop (List.replicate 4 .none)).emulator.frames =
        [Frame.blank, Frame.blank.draw 0 0 [0xF0, 0x90, 0x90, 0x90, 0xF0], Frame.blank] := by
  have listens : flashing.displayListens = true := by decide +kernel
  have stays : ∀ arrivals ∈ List.replicate 4 Arrivals.none,
      HostEvent.leaveDisplay ∉ arrivals.events := by
    decide +kernel
  have sent : deliveries flashing.machine.screen.redraw
      (flashing.steppedMachines (List.replicate 4 .none)) =
        [Frame.blank, Frame.blank.draw 0 0 [0xF0, 0x90, 0x90, 0x90, 0xF0], Frame.blank] := by
    decide +kernel
  have none : flashing.frames = [] := by decide +kernel
  have frames := (mainLoop_sends_drawn_frames listens stays).1
  rw [sent, none, List.nil_append] at frames
  exact ⟨listens, by decide +kernel, frames⟩

end ChipEight.Emulator
