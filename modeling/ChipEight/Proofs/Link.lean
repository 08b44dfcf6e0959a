import ChipEight.Link

/-!
# The link under the events of the host

Whatever a host does comes down to the three mailboxes one event after the other.  Masks go to the
end of their mailbox, so taking them one by one while the host goes on posting comes to the same as
taking all of them at once: `Drains.eq_drainKeys`.  A request to quit, once it waits, and a host
that left the mailbox of requests, once it left, are noticed whatever else the host does.

A host that gives up posting masks is a host that posts no more masks: `holdKeys_afterAll`.
-/

namespace ChipEight.Link

@[simp]
theorem afterAll_nil (link : Link) : link.afterAll [] = link :=
  rfl

@[simp]
theorem afterAll_cons (link : Link) (event : HostEvent) (rest : List HostEvent) :
    link.afterAll (event :: rest) = (link.after event).afterAll rest :=
  rfl

theorem afterAll_append (link : Link) (first second : List HostEvent) :
    link.afterAll (first ++ second) = (link.afterAll first).afterAll second := by
  simp [afterAll]

/-- The host sends no frames. -/
@[simp]
theorem frames_afterAll (link : Link) (events : List HostEvent) :
    (link.afterAll events).frames = link.frames := by
  induction events generalizing link with
  | nil => rfl
  | cons event rest later =>
      rw [afterAll_cons, later]
      cases event <;> rfl

@[simp]
theorem displayPresent_drainKeys (link : Link) :
    link.drainKeys.displayPresent = link.displayPresent :=
  rfl

/-- A receiver of frames is there until it leaves. -/
theorem displayPresent_afterAll (link : Link) (events : List HostEvent) :
    (link.afterAll events).displayPresent =
      (link.displayPresent && decide (HostEvent.leaveDisplay ∉ events)) := by
  induction events generalizing link with
  | nil => simp
  | cons event rest later =>
      rw [afterAll_cons, later]
      cases event <;> simp [after]

/-! ## Masks of keys -/

/-- The host adds masks at the end and takes none away. -/
theorem waiting_afterAll (link : Link) (events : List HostEvent) :
    ∃ posted, (link.afterAll events).keys.waiting = link.keys.waiting ++ posted := by
  induction events generalizing link with
  | nil => exact ⟨[], (List.append_nil _).symm⟩
  | cons event rest later =>
      rcases later (link.after event) with ⟨posted, waiting⟩
      rw [afterAll_cons, waiting]
      cases event with
      | postKeys bits =>
          simp only [after, Mailbox.post]
          split
          · exact ⟨bits :: posted, by simp⟩
          · exact ⟨posted, rfl⟩
      | _ => exact ⟨posted, rfl⟩

/-- The link after the loop took the oldest mask. -/
def takeMask (link : Link) : Link :=
  { link with keys := link.keys.takeOldest }

/-- A mask that waits can be taken before or after anything the host does. -/
theorem takeMask_after
    {link : Link} (waits : link.keys.waiting ≠ []) (event : HostEvent) :
    link.takeMask.after event = (link.after event).takeMask := by
  cases event with
  | postKeys bits =>
      cases present : link.keys.senderPresent <;>
        simp [after, takeMask, Mailbox.takeOldest, Mailbox.post, present,
          List.tail_append_of_ne_nil waits]
  | _ => rfl

/-- A mask that waits may be taken before or after the host acts. -/
theorem takeMask_afterAll
    {link : Link} (waits : link.keys.waiting ≠ []) (events : List HostEvent) :
    link.takeMask.afterAll events = (link.afterAll events).takeMask := by
  induction events generalizing link with
  | nil => rfl
  | cons event rest later =>
      have stillWaits : (link.after event).keys.waiting ≠ [] := by
        rcases waiting_afterAll link [event] with ⟨posted, waiting⟩
        rw [afterAll_cons, afterAll_nil] at waiting
        rw [waiting]
        exact List.append_ne_nil_of_left_ne_nil waits posted
      rw [afterAll_cons, takeMask_after waits, later stillWaits, afterAll_cons]

/--
The loop takes the masks one by one until it finds none.  Before each look into the mailbox the host
may act; the list has the events before each look.  `latest` is the last mask taken, first before
the looks and then after them.
-/
inductive Drains : Link → Option UInt16 → List (List HostEvent) → Option UInt16 → Link → Prop where
  | done {link : Link} {latest : Option UInt16} {events : List HostEvent}
      (empty : (link.afterAll events).keys.waiting = []) :
      Drains link latest [events] latest (link.afterAll events)
  | take {link : Link} {latest : Option UInt16} {events : List HostEvent} {mask : UInt16}
      {rest : List UInt16} {later : List (List HostEvent)} {last : Option UInt16} {after : Link}
      (waits : (link.afterAll events).keys.waiting = mask :: rest)
      (remaining : Drains (link.afterAll events).takeMask (some mask) later last after) :
      Drains link latest (events :: later) last after

/-- To take the masks one by one is to take them all at once, after what the host did meanwhile. -/
theorem Drains.eq_drainKeys
    {link after : Link} {latest last : Option UInt16} {looks : List (List HostEvent)}
    (drains : link.Drains latest looks last after) :
    last = (link.afterAll looks.flatten).keys.waiting.getLast?.or latest ∧
      after = (link.afterAll looks.flatten).drainKeys := by
  induction drains with
  | @done link latest events empty =>
      simp only [List.flatten_cons, List.flatten_nil, List.append_nil, empty, List.getLast?_nil,
        Option.none_or, true_and]
      rw [drainKeys, Mailbox.drain, ← empty]
  | @take link latest events mask rest later last after waits remaining all =>
      have nonempty : (link.afterAll events).keys.waiting ≠ [] := by
        rw [waits]
        nofun
      rcases waiting_afterAll (link.afterAll events) later.flatten with ⟨posted, waiting⟩
      rcases all with ⟨lastMask, drained⟩
      rw [takeMask_afterAll nonempty] at lastMask drained
      rw [List.flatten_cons, afterAll_append, lastMask, drained]
      refine ⟨?_, rfl⟩
      simp only [takeMask, Mailbox.takeOldest, waiting, waits, List.cons_append, List.tail_cons,
        List.getLast?_cons]
      cases (rest ++ posted).getLast? <;> rfl

/-! ## Requests to quit -/

@[simp]
theorem wantsQuit_drainKeys (link : Link) : link.drainKeys.wantsQuit = link.wantsQuit :=
  rfl

/-- The host wants to quit once it said so or left, and does not take that back. -/
theorem wantsQuit_after (link : Link) (event : HostEvent) :
    (link.after event).wantsQuit = true ↔
      link.wantsQuit = true ∨ (∃ message, event = .postQuit message) ∨ event = .leaveQuit := by
  cases event with
  | postQuit message =>
      cases present : link.quit.senderPresent <;>
        simp [after, wantsQuit, Mailbox.post, present]
  | leaveQuit => simp [after, wantsQuit, Mailbox.leave]
  | _ => simp [after, wantsQuit]

/-- A host that posts a request or leaves is noticed, and nothing else makes the loop end. -/
theorem wantsQuit_afterAll (link : Link) (events : List HostEvent) :
    (link.afterAll events).wantsQuit = true ↔
      link.wantsQuit = true ∨ (∃ message, .postQuit message ∈ events) ∨ .leaveQuit ∈ events := by
  induction events generalizing link with
  | nil => simp
  | cons event rest later =>
      rw [afterAll_cons, later, wantsQuit_after]
      constructor
      · rintro ((asked | ⟨message, rfl⟩ | rfl) | ⟨message, member⟩ | member)
        · exact Or.inl asked
        · exact Or.inr (Or.inl ⟨message, List.mem_cons_self⟩)
        · exact Or.inr (Or.inr List.mem_cons_self)
        · exact Or.inr (Or.inl ⟨message, List.mem_cons_of_mem _ member⟩)
        · exact Or.inr (Or.inr (List.mem_cons_of_mem _ member))
      · rintro (asked | ⟨message, member⟩ | member)
        · exact Or.inl (Or.inl asked)
        · rcases List.mem_cons.mp member with rfl | member
          · exact Or.inl (Or.inr (Or.inl ⟨message, rfl⟩))
          · exact Or.inr (Or.inl ⟨message, member⟩)
        · rcases List.mem_cons.mp member with rfl | member
          · exact Or.inl (Or.inr (Or.inr rfl))
          · exact Or.inr (Or.inr member)

/-! ## A host that holds on to the masks -/

/-- The host still has what each event needs, when it comes to it. -/
def admits : Link → List HostEvent → Bool
  | _, [] => true
  | link, event :: rest => link.allows event && (link.after event).admits rest

/-- What a link admits in two parts, it admits one after the other. -/
theorem admits_append (link : Link) (first second : List HostEvent) :
    link.admits (first ++ second) =
      (link.admits first && (link.afterAll first).admits second) := by
  induction first generalizing link with
  | nil => rfl
  | cons event rest later =>
      rw [List.cons_append, admits, later, afterAll_cons, admits, Bool.and_assoc]

/-- Of the three ends that the host may give up, those through which it posts. -/
def senders (link : Link) : Bool × Bool :=
  (link.keys.senderPresent, link.quit.senderPresent)

theorem senders_after (link : Link) (event : HostEvent) :
    (link.after event).senders =
      match event with
      | .leaveKeys => (false, link.quit.senderPresent)
      | .leaveQuit => (link.keys.senderPresent, false)
      | _ => link.senders := by
  cases event with
  | postKeys bits => simp only [after, senders, Mailbox.post]; split <;> rfl
  | postQuit message => simp only [after, senders, Mailbox.post]; split <;> rfl
  | _ => rfl

/-- What a host can do depends on the ends that it has left. -/
theorem admits_congr
    {first second : Link} (same : first.senders = second.senders) (events : List HostEvent) :
    first.admits events = second.admits events := by
  induction events generalizing first second with
  | nil => rfl
  | cons event rest later =>
      have keys : first.keys.senderPresent = second.keys.senderPresent := congrArg Prod.fst same
      have quit : first.quit.senderPresent = second.quit.senderPresent := congrArg Prod.snd same
      have allows : first.allows event = second.allows event := by
        cases event <;> simp only [Link.allows, keys, quit]
      have sameAfter : (first.after event).senders = (second.after event).senders := by
        rw [senders_after, senders_after, same, keys, quit]
      rw [admits, admits, allows, later sameAfter]

/-- The link of a host that still has its end of the mailbox of masks. -/
def holdKeys (link : Link) : Link :=
  { link with keys := { link.keys with senderPresent := true } }

/-- The events but for the departures from the mailbox of masks. -/
def holding (events : List HostEvent) : List HostEvent :=
  events.filter (· ≠ .leaveKeys)

/-- To leave the mailbox of masks is to hold on to it in silence. -/
theorem holdKeys_afterAll
    {link : Link} {events : List HostEvent} (admitted : link.admits events = true) :
    (link.afterAll events).holdKeys = link.holdKeys.afterAll (holding events) := by
  induction events generalizing link with
  | nil => rfl
  | cons event rest later =>
      rw [admits, Bool.and_eq_true] at admitted
      rcases admitted with ⟨allowed, restAdmitted⟩
      rw [afterAll_cons, later restAdmitted]
      cases event with
      | postKeys bits =>
          have present : link.keys.senderPresent = true := allowed
          simp [holding, after, holdKeys, Mailbox.post, present]
      | leaveKeys => simp [holding, after, holdKeys, Mailbox.leave]
      | _ => simp [holding, after, holdKeys]

end ChipEight.Link
