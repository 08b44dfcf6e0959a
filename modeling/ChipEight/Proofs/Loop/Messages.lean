import ChipEight.Proofs.Loop.Turn
import Mathlib.Control.Monad.Basic

/-!
# How a loop heeds its host

Within a turn the host is heard three times.  The latest of the waiting masks becomes the keypad;
the others make no difference, and neither does a host that posts no more masks.  A request to quit,
or a host that left the mailbox of requests, ends the loop before the step.  A frame that is due and
has nowhere to go ends it after the step.  A step that fails ends the loop with its fault.

What a turn does depends on the emulator that is `ready` and on what arrives later.  That is why the
masks can be condensed, and why a host that leaves is compared with one that holds on turn by turn:
`turns_holdKeys` is the induction, and the host's ends of the mailboxes are its invariant.
-/

namespace ChipEight

/-- The events of a turn but for the departures from the mailbox of masks. -/
def Arrivals.holdingKeys (arrivals : Arrivals) : Arrivals where
  beforeKeys := Link.holding arrivals.beforeKeys
  beforeQuit := Link.holding arrivals.beforeQuit
  beforeFrame := Link.holding arrivals.beforeFrame

/-- The emulator of a host that still has its end of the mailbox of masks. -/
def Emulator.holdKeys (emulator : Emulator) : Emulator :=
  { emulator with link := emulator.link.map Link.holdKeys }

/-- What came of turns, for a host that still has its end of the mailbox of masks. -/
def Turn.holdKeys (turn : Turn) : Turn :=
  { turn with emulator := turn.emulator.holdKeys }

@[simp]
theorem Turn.progress_holdKeys (turn : Turn) : turn.holdKeys.progress = turn.progress :=
  rfl

namespace Emulator

@[simp]
theorem receive_nil (emulator : Emulator) : emulator.receive [] = emulator := by
  rcases emulator with ⟨machine, settings, link⟩
  cases link <;> rfl

/-- Turns that are ready with the same emulator, and hear the same afterwards, are the same. -/
theorem turns_cons_congr
    {first second : Emulator} {early late : Arrivals}
    (ready : first.ready early = second.ready late)
    (beforeFrame : early.beforeFrame = late.beforeFrame) (rest : List Arrivals) :
    first.turns (early :: rest) = second.turns (late :: rest) := by
  have turn : first.turn early = second.turn late := by
    rw [turn_eq, turn_eq, ready, beforeFrame]
  rw [turns, turns, turn]

/-! ## Masks of keys -/

/-- The emulator with only the latest of the waiting masks. -/
def condenseKeys (emulator : Emulator) : Emulator :=
  { emulator with
    link := emulator.link.map fun link =>
      { link with keys := { link.keys with waiting := link.keys.waiting.getLast?.toList } } }

/-- Of the masks that wait, only the last one counts. -/
theorem takeKeys_condenseKeys (emulator : Emulator) :
    emulator.condenseKeys.takeKeys = emulator.takeKeys := by
  rcases emulator with ⟨machine, settings, link⟩
  cases link with
  | none => rfl
  | some link =>
      cases latest : link.keys.waiting.getLast? <;>
        simp [condenseKeys, takeKeys, latest, Link.drainKeys, Mailbox.drain]

/-- Of the masks that wait when a turn takes them, only the latest makes a difference. -/
theorem turns_condenseKeys (emulator : Emulator) (arrivals : Arrivals) (rest : List Arrivals) :
    (emulator.receive arrivals.beforeKeys).condenseKeys.turns
        ({ arrivals with beforeKeys := [] } :: rest) =
      emulator.turns (arrivals :: rest) := by
  have sameReady : (emulator.receive arrivals.beforeKeys).condenseKeys.ready
      { arrivals with beforeKeys := [] } = emulator.ready arrivals := by
    rw [ready, ready, receive_nil, takeKeys_condenseKeys]
  exact turns_cons_congr sameReady rfl rest

/-- Masks that are taken one by one, while the host goes on, are taken like masks taken at once. -/
theorem takeKeys_of_drains
    {emulator : Emulator} {link after : Link} (linked : emulator.link = some link)
    {looks : List (List HostEvent)} {last : Option UInt16}
    (drains : link.Drains none looks last after) :
    (emulator.receive looks.flatten).takeKeys.link = some after ∧
      (emulator.receive looks.flatten).latestMask? = last := by
  rcases drains.eq_drainKeys with ⟨rfl, rfl⟩
  simp [latestMask?, linked]

/-! ## A host that holds on to the masks -/

/-- The host still has what each event needs, when it comes to it. -/
def admits (emulator : Emulator) (events : List HostEvent) : Bool :=
  emulator.link.all (·.admits events)

/-- Events are admitted in two parts as they are in one. -/
theorem admits_append (emulator : Emulator) (first second : List HostEvent) :
    emulator.admits (first ++ second) =
      (emulator.admits first && (emulator.receive first).admits second) := by
  cases linked : emulator.link <;> simp [admits, linked, Link.admits_append]

theorem admits_takeKeys (emulator : Emulator) (events : List HostEvent) :
    emulator.takeKeys.admits events = emulator.admits events := by
  rw [admits, link_takeKeys]
  cases linked : emulator.link with
  | none => simp [admits, linked]
  | some link =>
      have sameEnds : link.drainKeys.senders = link.senders := rfl
      simp [admits, linked, Link.admits_congr sameEnds]

theorem admits_present (emulator : Emulator) (events : List HostEvent) :
    emulator.present.emulator.admits events = emulator.admits events := by
  cases due : emulator.machine.screen.redraw with
  | false => simp [present, due]
  | true =>
      cases linked : emulator.link with
      | none => simp [present, due, linked, admits]
      | some link =>
          cases listens : link.displayPresent with
          | false => simp [present, due, linked, listens, admits]
          | true =>
              have sameEnds (frame : Frame) : (link.sendFrame frame).senders = link.senders := rfl
              simp [present, due, linked, listens, admits, Link.admits_congr (sameEnds _)]

/-- What the host does during a turn and afterwards, split where the turn hears it. -/
theorem admits_events (emulator : Emulator) (arrivals : Arrivals) (later : List HostEvent) :
    emulator.admits (arrivals.events ++ later) =
      (emulator.admits arrivals.beforeKeys &&
        ((emulator.receive arrivals.beforeKeys).takeKeys.admits arrivals.beforeQuit &&
          ((emulator.ready arrivals).admits arrivals.beforeFrame &&
            (emulator.presenting arrivals).admits later))) := by
  rw [Arrivals.events, List.append_assoc, List.append_assoc, admits_append,
    ← admits_takeKeys (emulator.receive arrivals.beforeKeys), admits_append, admits_append]
  rfl

/-- A keypad end that is held, not dropped, makes no difference to what else arrives. -/
theorem receive_holdKeys
    {emulator : Emulator} {events : List HostEvent} (admitted : emulator.admits events = true) :
    emulator.holdKeys.receive (Link.holding events) = (emulator.receive events).holdKeys := by
  cases linked : emulator.link with
  | none => simp [receive, holdKeys, linked]
  | some link =>
      simp only [admits, linked, Option.all_some] at admitted
      simp [receive, holdKeys, linked, Link.holdKeys_afterAll admitted]

theorem takeKeys_holdKeys (emulator : Emulator) :
    emulator.holdKeys.takeKeys = emulator.takeKeys.holdKeys := by
  cases linked : emulator.link with
  | none => simp [takeKeys, holdKeys, linked]
  | some link =>
      simp [takeKeys, holdKeys, linked, Link.holdKeys, Link.drainKeys, Mailbox.drain]

theorem wantsQuit_holdKeys (emulator : Emulator) :
    emulator.holdKeys.wantsQuit = emulator.wantsQuit := by
  cases linked : emulator.link <;> simp [wantsQuit, holdKeys, linked, Link.wantsQuit, Link.holdKeys]

theorem quit_holdKeys (emulator : Emulator) :
    emulator.holdKeys.quit = emulator.quit.holdKeys := by
  cases linked : emulator.link <;>
    simp [quit, holdKeys, Turn.holdKeys, linked, Link.acknowledgeQuit, Link.holdKeys]

theorem present_holdKeys (emulator : Emulator) :
    emulator.holdKeys.present = emulator.present.holdKeys := by
  cases due : emulator.machine.screen.redraw with
  | false => simp [present, holdKeys, Turn.holdKeys, due]
  | true =>
      cases linked : emulator.link with
      | none => simp [present, holdKeys, Turn.holdKeys, due, linked]
      | some link =>
          cases listens : link.displayPresent <;>
            simp [present, holdKeys, Turn.holdKeys, due, linked, listens, Link.holdKeys,
              Link.sendFrame]

/-- A step and its frame come out alike whether the keypad end is held or not. -/
theorem stepAndPresent_holdKeys
    {emulator : Emulator} {beforeFrame : List HostEvent}
    (admitted : emulator.admits beforeFrame = true) :
    emulator.holdKeys.stepAndPresent (Link.holding beforeFrame) =
      (emulator.stepAndPresent beforeFrame).holdKeys := by
  let stepped : Emulator := { emulator with machine := emulator.machine.step.machine }
  have received : stepped.holdKeys.receive (Link.holding beforeFrame) =
      (stepped.receive beforeFrame).holdKeys :=
    receive_holdKeys admitted
  cases result : emulator.machine.step.result with
  | error fault =>
      have failed : emulator.holdKeys.machine.step.result = .error fault := result
      simp only [stepAndPresent, failed, result]
      rfl
  | ok =>
      have succeeded : emulator.holdKeys.machine.step.result = .ok () := result
      have presented : (stepped.holdKeys.receive (Link.holding beforeFrame)).present =
          (stepped.receive beforeFrame).present.holdKeys := by
        rw [received, present_holdKeys]
      simp only [stepAndPresent, succeeded, result]
      exact congrArg
        (fun turn => { turn with notices := emulator.machine.step.notices ++ turn.notices })
        presented

/-- A turn of a host that holds on to the masks is the turn of one that leaves. -/
theorem turn_holdKeys
    {emulator : Emulator} {arrivals : Arrivals}
    (admitted : emulator.admits arrivals.events = true) :
    emulator.holdKeys.turn arrivals.holdingKeys = (emulator.turn arrivals).holdKeys := by
  rw [← List.append_nil arrivals.events, admits_events] at admitted
  simp only [Bool.and_eq_true] at admitted
  rcases admitted with ⟨beforeKeys, beforeQuit, beforeFrame, _⟩
  have ready : emulator.holdKeys.ready arrivals.holdingKeys =
      (emulator.ready arrivals).holdKeys := by
    rw [Emulator.ready, Arrivals.holdingKeys, receive_holdKeys beforeKeys, takeKeys_holdKeys,
      receive_holdKeys beforeQuit]
    rfl
  rw [turn_eq, turn_eq, ready, wantsQuit_holdKeys, quit_holdKeys, Arrivals.holdingKeys,
    stepAndPresent_holdKeys beforeFrame, apply_ite Turn.holdKeys]

/-- As long as the loop goes on, what the host does next depends on what it did so far. -/
theorem admits_turn_of_running
    {emulator : Emulator} {arrivals : Arrivals} {later : List HostEvent}
    (running : (emulator.turn arrivals).progress = .running)
    (admitted : emulator.admits (arrivals.events ++ later) = true) :
    (emulator.turn arrivals).emulator.admits later = true := by
  rcases step_of_turn_running running with ⟨continues, succeeded⟩
  rw [admits_events] at admitted
  simp only [Bool.and_eq_true] at admitted
  rw [(turn_of_step continues succeeded).2, admits_present]
  exact admitted.2.2.2

/-- A loop whose host gives up posting masks is the loop whose host just posts no more. -/
theorem turns_holdKeys
    {emulator : Emulator} {schedule : List Arrivals}
    (admitted : emulator.admits (schedule.flatMap Arrivals.events) = true) :
    emulator.holdKeys.turns (schedule.map Arrivals.holdingKeys) =
      (emulator.turns schedule).holdKeys := by
  induction schedule generalizing emulator with
  | nil => rfl
  | cons arrivals rest later =>
      rw [List.flatMap_cons] at admitted
      have now : emulator.admits arrivals.events = true := by
        rw [admits_append, Bool.and_eq_true] at admitted
        exact admitted.1
      rw [List.map_cons, turns, turns, turn_holdKeys now]
      cases progress : (emulator.turn arrivals).progress with
      | running =>
          simp only [Turn.holdKeys, progress, later (admits_turn_of_running progress admitted)]
      | stopped => simp only [Turn.holdKeys, progress]
      | failed fault => simp only [Turn.holdKeys, progress]

/-! ## The end of the loop -/

/-- A turn finds a request to quit if one waits or the host left, whenever that happened. -/
theorem wantsQuit_ready_iff (emulator : Emulator) (arrivals : Arrivals) :
    (emulator.ready arrivals).wantsQuit = true ↔
      ∃ link, emulator.link = some link ∧
        (link.quit.waiting ≠ [] ∨ link.quit.senderPresent = false ∨
          (∃ message, .postQuit message ∈ arrivals.beforeKeys ++ arrivals.beforeQuit) ∨
          .leaveQuit ∈ arrivals.beforeKeys ++ arrivals.beforeQuit) := by
  cases linked : emulator.link with
  | none => simp [wantsQuit, ready, linked]
  | some link =>
      have heard : ((link.afterAll arrivals.beforeKeys).drainKeys.afterAll
          arrivals.beforeQuit).wantsQuit =
            (link.afterAll (arrivals.beforeKeys ++ arrivals.beforeQuit)).wantsQuit := by
        rw [Bool.eq_iff_iff, Link.afterAll_append, Link.wantsQuit_afterAll, Link.wantsQuit_afterAll,
          Link.wantsQuit_drainKeys]
      have asked : link.wantsQuit = true ↔
          link.quit.waiting ≠ [] ∨ link.quit.senderPresent = false := by
        simp [Link.wantsQuit]
      simp only [wantsQuit, ready, link_receive, link_takeKeys, linked, Option.map_some,
        Option.any_some, heard, Link.wantsQuit_afterAll, asked, Option.some.injEq,
        exists_eq_left', or_assoc]

/-! ## What a turn makes of the messages -/

/-- How a loop that goes on with a turn heeds its host in that turn. -/
structure HeedsHost (emulator : Emulator) (arrivals : Arrivals) (rest : List Arrivals) : Prop where
  /-- The step sees the latest mask that waits, or the keypad as it was if none does. -/
  keypad : (emulator.ready arrivals).machine =
    emulator.machine.withMask (emulator.receive arrivals.beforeKeys).latestMask?
  /-- Masks taken one by one, while the host goes on posting, are masks taken at once. -/
  oneByOne : ∀ {link after : Link} {looks : List (List HostEvent)} {last : Option UInt16},
    emulator.link = some link → looks.flatten = arrivals.beforeKeys →
      link.Drains none looks last after →
        (emulator.receive arrivals.beforeKeys).takeKeys.link = some after ∧
          (emulator.receive arrivals.beforeKeys).latestMask? = last
  /-- The masks before the latest one make no difference to anything that follows. -/
  condensed : (emulator.receive arrivals.beforeKeys).condenseKeys.turns
    ({ arrivals with beforeKeys := [] } :: rest) = emulator.turns (arrivals :: rest)
  /-- Nor does it make a difference that the host gives up posting masks. -/
  held : emulator.admits ((arrivals :: rest).flatMap Arrivals.events) = true →
    emulator.holdKeys.turns ((arrivals :: rest).map Arrivals.holdingKeys) =
      (emulator.turns (arrivals :: rest)).holdKeys
  /-- The loop is to end if a request waits, whatever it says, or if the host left. -/
  asked : (emulator.ready arrivals).wantsQuit = true ↔
    ∃ link, emulator.link = some link ∧
      (link.quit.waiting ≠ [] ∨ link.quit.senderPresent = false ∨
        (∃ message, .postQuit message ∈ arrivals.beforeKeys ++ arrivals.beforeQuit) ∨
        .leaveQuit ∈ arrivals.beforeKeys ++ arrivals.beforeQuit)
  /-- Then it ends without another step or frame, whatever the step would have done. -/
  quits : (emulator.ready arrivals).wantsQuit = true →
    (emulator.turns (arrivals :: rest)).progress = .stopped ∧
      (emulator.turns (arrivals :: rest)).emulator.machine = (emulator.ready arrivals).machine ∧
      (emulator.turns (arrivals :: rest)).emulator.frames = emulator.frames
  /-- Otherwise it ends with the fault of the step if that fails, and sends nothing. -/
  fails : (emulator.ready arrivals).wantsQuit = false →
    ∀ fault, (emulator.ready arrivals).machine.step.result = .error fault →
      (emulator.turns (arrivals :: rest)).progress = .failed fault ∧
        (emulator.turns (arrivals :: rest)).emulator.machine =
          (emulator.ready arrivals).machine.step.machine ∧
        (emulator.turns (arrivals :: rest)).emulator.frames = emulator.frames
  /-- The host takes no frames once it gave up its end. -/
  left : (emulator.presenting arrivals).displayLeft = true ↔
    ∃ link, emulator.link = some link ∧
      (link.displayPresent = false ∨ .leaveDisplay ∈ arrivals.events)
  /-- Otherwise it ends if a frame is due that the host does not take. -/
  hangsUp : (emulator.ready arrivals).wantsQuit = false →
    (emulator.ready arrivals).machine.step.result = .ok () →
      (emulator.ready arrivals).machine.step.machine.screen.redraw = true →
        (emulator.presenting arrivals).displayLeft = true →
          (emulator.turns (arrivals :: rest)).progress = .stopped ∧
            (emulator.turns (arrivals :: rest)).emulator.machine =
              (emulator.ready arrivals).machine.step.machine.withRedraw false ∧
            (emulator.turns (arrivals :: rest)).emulator.frames = emulator.frames
  /-- In all other cases it goes on with the next turn, after it sent the frame if one is due. -/
  goesOn : (emulator.ready arrivals).wantsQuit = false →
    (emulator.ready arrivals).machine.step.result = .ok () →
      ¬((emulator.ready arrivals).machine.step.machine.screen.redraw = true ∧
        (emulator.presenting arrivals).displayLeft = true) →
          (emulator.turn arrivals).progress = .running ∧
            (emulator.turn arrivals).emulator.machine =
              (emulator.ready arrivals).machine.step.machine.withRedraw false ∧
            (emulator.turn arrivals).emulator.frames =
              emulator.frames ++
                (if (emulator.ready arrivals).machine.step.machine.screen.redraw &&
                    (emulator.presenting arrivals).displayListens then
                  [(emulator.ready arrivals).machine.step.machine.screen.frame]
                else []) ∧
            (emulator.turns (arrivals :: rest)).progress =
              ((emulator.turn arrivals).emulator.turns rest).progress ∧
            (emulator.turns (arrivals :: rest)).emulator =
              ((emulator.turn arrivals).emulator.turns rest).emulator

/-- Every turn of every loop heeds the host. -/
theorem heedsHost (emulator : Emulator) (arrivals : Arrivals) (rest : List Arrivals) :
    emulator.HeedsHost arrivals rest where
  keypad := machine_ready emulator arrivals
  oneByOne := by
    rintro link after looks last linked flattened drains
    rw [← flattened]
    exact takeKeys_of_drains linked drains
  condensed := turns_condenseKeys emulator arrivals rest
  held := turns_holdKeys
  asked := wantsQuit_ready_iff emulator arrivals
  quits := by
    intro quits
    have outcome := turn_of_wantsQuit quits
    rw [turns_cons_of_outcome outcome.1 nofun]
    exact outcome
  fails := by
    intro continues fault failed
    have outcome := turn_of_fault continues failed
    rw [turns_cons_of_outcome outcome.1 nofun]
    exact outcome
  left := displayLeft_presenting_iff emulator arrivals
  hangsUp := by
    intro continues succeeded due left
    rcases turn_of_step continues succeeded with ⟨progress, after⟩
    have stopped : (emulator.turn arrivals).progress = .stopped := by
      rw [progress, progress_present, machine_presenting, due, left]
      rfl
    have nobody : (emulator.presenting arrivals).displayListens = false := by
      rw [← Bool.not_eq_true]
      intro listens
      rw [displayLeft_of_displayListens listens] at left
      cases left
    rw [turns_cons_of_outcome stopped nofun]
    refine ⟨stopped, machine_turn_of_step continues succeeded, ?_⟩
    rw [after, frames_present, nobody, Bool.and_false, frames_presenting]
    exact List.append_nil _
  goesOn := by
    intro continues succeeded delivered
    have running : (emulator.turn arrivals).progress = .running := by
      rw [(turn_of_step continues succeeded).1, progress_present, machine_presenting, if_neg]
      rwa [Bool.and_eq_true]
    have frames := frames_present (emulator.presenting arrivals)
    rw [← (turn_of_step continues succeeded).2, frames_presenting, machine_presenting] at frames
    rw [turns_cons_of_running running]
    exact ⟨running, machine_turn_of_step continues succeeded, frames, rfl, rfl⟩

/--
How a loop heeds its host in any of its turns, whatever the host did before and does later.  The
loop is what it makes of its further turns, and the first of these heeds the host.
-/
theorem mainLoop_heeds_host
    {emulator : Emulator} {before : List Arrivals}
    (running : (emulator.mainLoop before).progress = .running)
    (arrivals : Arrivals) (rest : List Arrivals) :
    let current := (emulator.mainLoop before).emulator
    let made := emulator.mainLoop (before ++ arrivals :: rest)
    made.progress = (current.turns (arrivals :: rest)).progress ∧
      made.emulator = (current.turns (arrivals :: rest)).emulator ∧
      current.HeedsHost arrivals rest := by
  intro current made
  have goesOn : emulator.turns (before ++ arrivals :: rest) =
      { current.turns (arrivals :: rest) with
        notices := (emulator.turns before).notices ++
          (current.turns (arrivals :: rest)).notices } :=
    turns_append_of_running running (arrivals :: rest)
  have progress : made.progress = (current.turns (arrivals :: rest)).progress := by
    show (emulator.turns (before ++ arrivals :: rest)).progress = _
    rw [goesOn]
  have after : made.emulator = (current.turns (arrivals :: rest)).emulator := by
    show (emulator.turns (before ++ arrivals :: rest)).emulator = _
    rw [goesOn]
  exact ⟨progress, after, heedsHost current arrivals rest⟩

/-- A linked emulator whose program clears the screen and then fails to return. -/
def failing : Emulator :=
  (create ((Machine.create (Random.ofSeed 0)).machine.load #[0x00, 0xE0, 0x00, 0xEE]).machine
    Settings.default).connect

/-- Two masks, a departure from their mailbox, and a request to quit that comes before the step. -/
def hurrying : Arrivals :=
  ⟨[.postKeys 1, .postKeys 8, .leaveKeys], [.postQuit false], []⟩

/-- In its second turn the loop takes the second mask, one by one or at once, and ends before the
step that would fail, also if the host keeps its end.  Without the request that step ends it, and a
host that no longer takes frames ends it a turn earlier. -/
theorem mainLoop_heeds_host_failing :
    (failing.mainLoop [.none, hurrying]).progress = .stopped ∧
      (failing.mainLoop [.none, hurrying]).emulator.machine.keypad = Keypad.ofMask 8 ∧
      (failing.mainLoop [.none, hurrying]).emulator.frames = [Frame.blank] ∧
      ((failing.mainLoop [.none]).emulator.receive hurrying.beforeKeys).latestMask? = some 8 ∧
      ((failing.mainLoop [.none]).emulator.holdKeys.turns [hurrying.holdingKeys]).progress =
        .stopped ∧
      (failing.mainLoop [.none, .none]).progress = .failed (.stackUnderflow 0x202) ∧
      (failing.mainLoop [⟨[], [], [.leaveDisplay]⟩, .none]).progress = .stopped := by
  have running : (failing.mainLoop [.none]).progress = .running := by decide +kernel
  have first : (failing.mainLoop []).progress = .running := by decide +kernel
  rcases mainLoop_heeds_host running hurrying [] with ⟨quitProgress, quitAfter, quit⟩
  rcases mainLoop_heeds_host running .none [] with ⟨faultProgress, _, fault⟩
  rcases mainLoop_heeds_host first ⟨[], [], [.leaveDisplay]⟩ [.none] with
    ⟨leftProgress, _, left⟩
  rcases quit.quits (by decide +kernel) with ⟨stopped, machine, frames⟩
  let link : Link := { Link.fresh with frames := [Frame.blank] }
  have linked : (failing.mainLoop [.none]).emulator.link = some link := by decide +kernel
  have drains : link.Drains none [[.postKeys 1, .postKeys 8], [.leaveKeys], []] (some 8) _ :=
    .take rfl (.take rfl (.done rfl))
  have taken := quit.oneByOne linked rfl drains
  have held := quit.held (by decide +kernel)
  have failed := fault.fails (by decide +kernel) (.stackUnderflow 0x202) (by decide +kernel)
  have hungUp := left.hangsUp (by decide +kernel) (by decide +kernel) (by decide +kernel)
    (by decide +kernel)
  have pressed : ((failing.mainLoop [.none]).emulator.ready hurrying).machine.keypad =
      Keypad.ofMask 8 := by
    decide +kernel
  have sent : (failing.mainLoop [.none]).emulator.frames = [Frame.blank] := by decide +kernel
  rw [List.singleton_append] at quitProgress quitAfter faultProgress
  rw [List.nil_append] at leftProgress
  rw [List.map_singleton] at held
  refine ⟨quitProgress.trans stopped, ?_, ?_, taken.2, ?_, faultProgress.trans failed.1,
    leftProgress.trans hungUp.1⟩
  · rw [quitAfter, machine, pressed]
  · rw [quitAfter, frames, sent]
  · rw [held, Turn.progress_holdKeys, stopped]

end Emulator

end ChipEight
