import ChipEight.Frame

/-!
# The link to the host

A host talks to the main loop through three one-way mailboxes: masks of keys and requests to quit
come in, frames go out.  Each end may be given up at any time.  Messages that were posted before
their sender left still arrive; a frame has nowhere to go once its receiver has left.
-/

namespace ChipEight

/-- Messages that wait to be taken, the oldest first, and whether more can come. -/
structure Mailbox (Message : Type) where
  waiting : List Message
  senderPresent : Bool
deriving DecidableEq

namespace Mailbox

variable {Message : Type}

def empty : Mailbox Message :=
  ⟨[], true⟩

/-- Add a message, if there is still someone to post it. -/
def post (mailbox : Mailbox Message) (message : Message) : Mailbox Message :=
  if mailbox.senderPresent then { mailbox with waiting := mailbox.waiting ++ [message] }
  else mailbox

def leave (mailbox : Mailbox Message) : Mailbox Message :=
  { mailbox with senderPresent := false }

def drain (mailbox : Mailbox Message) : Mailbox Message :=
  { mailbox with waiting := [] }

def takeOldest (mailbox : Mailbox Message) : Mailbox Message :=
  { mailbox with waiting := mailbox.waiting.tail }

end Mailbox

/-- What a host may do to its link. -/
inductive HostEvent where
  | postKeys (bits : UInt16)
  | postQuit (message : Bool)
  | leaveKeys
  | leaveQuit
  | leaveDisplay
deriving DecidableEq

/-- The three mailboxes; of the last, the frames that were sent and not yet collected. -/
structure Link where
  keys : Mailbox UInt16
  quit : Mailbox Bool
  displayPresent : Bool
  frames : List Frame
deriving DecidableEq

namespace Link

def fresh : Link :=
  ⟨Mailbox.empty, Mailbox.empty, true, []⟩

/-- Whether the host still has what an event needs. -/
def allows (link : Link) : HostEvent → Bool
  | .postKeys _ => link.keys.senderPresent
  | .postQuit _ => link.quit.senderPresent
  | .leaveKeys | .leaveQuit | .leaveDisplay => true

def after (link : Link) : HostEvent → Link
  | .postKeys bits => { link with keys := link.keys.post bits }
  | .postQuit message => { link with quit := link.quit.post message }
  | .leaveKeys => { link with keys := link.keys.leave }
  | .leaveQuit => { link with quit := link.quit.leave }
  | .leaveDisplay => { link with displayPresent := false }

def afterAll (link : Link) (events : List HostEvent) : Link :=
  events.foldl after link

/-- Whether the loop is to end: a request waits, or none can come any more. -/
def wantsQuit (link : Link) : Bool :=
  !link.quit.waiting.isEmpty || !link.quit.senderPresent

/-- The link after the loop looked for a request to quit. -/
def acknowledgeQuit (link : Link) : Link :=
  { link with quit := link.quit.takeOldest }

def drainKeys (link : Link) : Link :=
  { link with keys := link.keys.drain }

/-- The link after a frame was sent to a receiver that is present. -/
def sendFrame (link : Link) (frame : Frame) : Link :=
  { link with frames := link.frames ++ [frame] }

def collectFrames (link : Link) : Link :=
  { link with frames := [] }

end Link

end ChipEight
