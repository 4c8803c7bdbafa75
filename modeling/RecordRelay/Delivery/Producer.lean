import RecordRelay.Delivery.Channel
import RecordRelay.Delivery.Sink

/-!
# The producer

Messages wait for the sink in a bounded **queue**. Handing one in is a small procedure of its own:
the submission checks that the producer is open, asks for a slot of the queue, waits in line if
there is none, enters the queue once it holds one, and then tells its caller. It may give up while
it waits, and it may be dropped, but not once it holds a slot. A **dispatcher** takes the messages
off the queue in order and appends each to the sink; what the sink does not take it reports on a
bounded error channel, and it waits while that is full.

Closing takes two steps. Once a close was requested no new submission starts; the dispatcher notices
the request between two messages, closes the queue, so that no submission asks for a slot any more,
and goes on until the queue is empty and every slot has come back. Then it closes the sink and
stops. The request may come after the dispatcher looked for it and before it looks at the queue, so
it may take one more message before it notices.

All of this is one state with one `step` function. The actions are the smallest steps between which
anything else may happen, and a step says what occurred. What the sink answers is part of the
action, so that the same function serves every sink.
-/

namespace RecordRelay

/-- How much a producer holds, and how long a submission waits for a slot. -/
structure Capacity where
  /-- The size of the queue. -/
  queue : Nat
  /-- The size of the error channel. -/
  errors : Nat
  /-- How long a submission waits, in milliseconds. -/
  patienceMs : Nat
  deriving DecidableEq, Repr

/-- The slots of the queue: at least one. -/
def Capacity.slots (c : Capacity) : Nat := max 1 c.queue

/-- The reports that the error channel holds: at least one. -/
def Capacity.reports (c : Capacity) : Nat := max 1 c.errors

/-- What can **occur** on the way of a message. -/
inductive Occurrence where
  /-- A submission entered the queue. -/
  | entered (s : Submission)
  /-- The call of a submission that entered the queue returned. -/
  | accepted (s : Submission)
  /-- A submission was refused, and its call returned. -/
  | rejected (s : Submission) (why : Rejection)
  /-- A submission was dropped while it waited. -/
  | abandoned (s : Submission)
  /-- A message was handed to the sink. -/
  | handed (s : Submission)
  /-- The sink answered for a message. -/
  | appended (s : Submission) (result : Except SinkFault Unit)
  /-- The sink was asked to close. -/
  | sinkClosing
  /-- The sink was closed. -/
  | sinkClosed (result : Except SinkFault Unit)
  /-- A report was taken off the error channel. -/
  | received (f : Undelivered)
  /-- A report was lost because nobody listens. -/
  | lost (f : Undelivered)
  /-- A report was entered into the ledger. -/
  | recorded (f : Undelivered)
  /-- A call to close returned this many failures; one such call holds the background tasks. -/
  | closeReturned (holder : Bool) (observed : Nat)

namespace Producer

/-- Where the **dispatcher** stands. -/
inductive Phase where
  /-- Between two messages. -/
  | ready
  /-- The sink has this message and has not answered. -/
  | appending (s : Submission)
  /-- This report waits for the error channel; after the last one the dispatcher stops. -/
  | reporting (f : Undelivered) (last : Bool)
  /-- The sink is being closed. -/
  | closing
  /-- The end. -/
  | stopped
  deriving DecidableEq, Repr

/-- Where the dispatcher goes on when a report is gone. -/
def Phase.afterReport (last : Bool) : Phase := if last then .stopped else .ready

/-- The state of a **producer**. -/
structure State where
  /-- How much it holds. -/
  capacity : Capacity
  /-- The kind of its sink. -/
  kind : String
  /-- The queue, oldest message first. -/
  items : List Submission
  /-- Submissions that found the producer open and have yet to ask for a slot. -/
  checked : List Submission
  /-- Submissions that wait for a slot, in the order in which they asked. -/
  waiting : List Submission
  /-- Submissions that were given a slot and have yet to notice. -/
  offered : List Submission
  /-- Submissions that hold a slot and have yet to enter the queue. -/
  holding : List Submission
  /-- Submissions that entered the queue and have yet to tell their callers. -/
  sent : List Submission
  /-- Whether a close was requested. -/
  closeRequested : Bool
  /-- Whether the dispatcher closed the queue. -/
  draining : Bool
  /-- Whether anybody can still submit. -/
  hasHandle : Bool
  /-- Where the dispatcher stands. -/
  phase : Phase
  /-- The error channel, oldest report first. -/
  errors : List Undelivered
  /-- Whether anybody listens to the error channel. -/
  hasReceiver : Bool
  deriving DecidableEq, Repr

/-- A producer that has just started. -/
def start (capacity : Capacity) (kind : String) : State where
  capacity := capacity
  kind := kind
  items := []
  checked := []
  waiting := []
  offered := []
  holding := []
  sent := []
  closeRequested := false
  draining := false
  hasHandle := true
  phase := .ready
  errors := []
  hasReceiver := true

/-- **Spawns** a producer: its queue and its error channel are made, and then it starts. -/
def spawn (capacity : Capacity) (kind : String) : Except Channel.Crash State := do
  Channel.make capacity.slots
  Channel.make capacity.reports
  .ok (start capacity kind)

namespace State

/-- The slots that are taken: by messages, and by submissions that will become some. -/
def taken (st : State) : Nat := st.items.length + st.offered.length + st.holding.length

/-- Gives free slots to those who wait longest. A closed queue gives no more slots. -/
def offer (st : State) : State :=
  if st.draining then st
  else
    let free := st.capacity.slots - st.taken
    { st with
      offered := st.offered ++ st.waiting.take free
      waiting := st.waiting.drop free }

/-- The submissions whose calls have yet to return. -/
def pending (st : State) : List Submission :=
  st.checked ++ (st.offered ++ st.waiting) ++ st.holding ++ st.sent

end State

/-- What can **happen next**. -/
inductive Action where
  /-- A submission starts and checks that the producer is open. -/
  | submit (s : Submission)
  /-- It asks for a slot. -/
  | reserve (s : Submission)
  /-- It notices that it was given a slot, or that the queue was closed. -/
  | resume (s : Submission)
  /-- It enters the queue. -/
  | send (s : Submission)
  /-- It tells its caller that it entered. -/
  | confirm (s : Submission)
  /-- Its time is up. -/
  | timeOut (s : Submission)
  /-- It is dropped. -/
  | abandon (s : Submission)
  /-- Somebody requests a close. -/
  | requestClose
  /-- Nobody can submit any more. -/
  | dropHandle
  /-- The dispatcher notices the request and closes the queue. -/
  | drain
  /-- The dispatcher takes the next message. -/
  | take
  /-- The sink answers. -/
  | answer (result : Except SinkFault Unit)
  /-- The dispatcher puts a report on the error channel. -/
  | report
  /-- The dispatcher finds that no message will come any more. -/
  | finish
  /-- The sink is closed. -/
  | sinkClosed (result : Except SinkFault Unit)
  /-- The next report is taken off the error channel. -/
  | receive
  /-- The error channel is abandoned. -/
  | dropReceiver

/-- The report for a message that the sink did not take. -/
def reportOf (s : Submission) (fault : SinkFault) : Undelivered :=
  ⟨some s.id, s.topic, fault.message⟩

/-- The report for a sink that failed to close. -/
def closingReport (kind : String) (fault : SinkFault) : Undelivered :=
  ⟨none, "", "closing " ++ kind ++ " sink: " ++ fault.message⟩

/-- **One step**: the state after it and what occurred, or nothing if it cannot happen now. -/
def step (a : Action) (st : State) : Option (State × List Occurrence) :=
  match a with
  | .submit s =>
    if ¬ st.hasHandle then none
    else if st.closeRequested then some (st, [.rejected s .closed])
    else some ({ st with checked := st.checked ++ [s] }, [])
  | .reserve s =>
    if s ∉ st.checked then none
    else
      let st := { st with checked := st.checked.erase s }
      if st.draining then some (st, [.rejected s .closed])
      else if st.taken < st.capacity.slots then
        some ({ st with holding := st.holding ++ [s] }, [])
      else some ({ st with waiting := st.waiting ++ [s] }, [])
  | .resume s =>
    -- a closed queue turns away even those who were given a slot
    if s ∈ st.offered then
      let st := { st with offered := st.offered.erase s }
      if st.draining then some (st, [.rejected s .closed])
      else some ({ st with holding := st.holding ++ [s] }, [])
    else if s ∈ st.waiting ∧ st.draining then
      some ({ st with waiting := st.waiting.erase s }, [.rejected s .closed])
    else none
  | .send s =>
    if s ∉ st.holding then none
    else
      some ({ st with
        holding := st.holding.erase s
        items := st.items ++ [s]
        sent := st.sent ++ [s] }, [.entered s])
  | .confirm s =>
    if s ∉ st.sent then none else some ({ st with sent := st.sent.erase s }, [.accepted s])
  | .timeOut s =>
    let why := Rejection.queueFull st.capacity.patienceMs
    if s ∈ st.waiting then
      some ({ st with waiting := st.waiting.erase s }, [.rejected s why])
    else if s ∈ st.offered then
      -- the slot that it was given comes free again
      some ({ st with offered := st.offered.erase s }.offer, [.rejected s why])
    else none
  | .abandon s =>
    if s ∈ st.checked then some ({ st with checked := st.checked.erase s }, [.abandoned s])
    else if s ∈ st.waiting then some ({ st with waiting := st.waiting.erase s }, [.abandoned s])
    else if s ∈ st.offered then
      some ({ st with offered := st.offered.erase s }.offer, [.abandoned s])
    else none
  | .requestClose => if st.hasHandle then some ({ st with closeRequested := true }, []) else none
  | .dropHandle =>
    if st.hasHandle ∧ st.pending = [] then
      some ({ st with hasHandle := false }, [])
    else none
  | .drain =>
    if st.phase = .ready ∧ st.closeRequested ∧ ¬ st.draining then
      some ({ st with draining := true }, [])
    else none
  | .take =>
    -- a close may have been requested since the dispatcher last looked for that
    match st.phase, st.items with
    | .ready, s :: rest =>
      some ({ st with items := rest, phase := .appending s }.offer, [.handed s])
    | _, _ => none
  | .answer result =>
    match st.phase with
    | .appending s =>
      match result with
      | .ok () => some ({ st with phase := .ready }, [.appended s result])
      | .error fault =>
        some ({ st with phase := .reporting (reportOf s fault) false }, [.appended s result])
    | _ => none
  | .report =>
    match st.phase with
    | .reporting f last =>
      if ¬ st.hasReceiver then some ({ st with phase := .afterReport last }, [.lost f])
      else if st.errors.length < st.capacity.reports then
        some ({ st with phase := .afterReport last, errors := st.errors ++ [f] }, [])
      else none
    | _ => none
  | .finish =>
    -- whoever holds a slot of a closed queue may still enter it, so all of them have to come back
    if st.phase = .ready ∧ st.items = []
        ∧ (¬ st.hasHandle ∨ st.draining ∧ st.offered = [] ∧ st.holding = []) then
      some ({ st with phase := .closing }, [.sinkClosing])
    else none
  | .sinkClosed result =>
    match st.phase with
    | .closing =>
      match result with
      | .ok () => some ({ st with phase := .stopped }, [.sinkClosed result])
      | .error fault =>
        some ({ st with phase := .reporting (closingReport st.kind fault) true },
          [.sinkClosed result])
    | _ => none
  | .receive =>
    match st.errors with
    | f :: rest =>
      if st.hasReceiver then some ({ st with errors := rest }, [.received f]) else none
    | [] => none
  | .dropReceiver =>
    if st.hasReceiver then
      some ({ st with hasReceiver := false, errors := [] }, st.errors.map .lost)
    else none

/-- What a phase of the dispatcher has still to do. -/
def Phase.work : Phase → Nat
  | ready => 4
  | appending _ => 7
  | reporting _ last => if last then 2 else 6
  | closing => 3
  | stopped => 0

/-- How much **work** is left for submissions, dispatcher and whoever listens to the errors. -/
def State.work (st : State) : Nat :=
  9 * st.checked.length + 8 * st.waiting.length + 7 * st.offered.length + 6 * st.holding.length
    + st.sent.length + 4 * st.items.length + st.errors.length + st.phase.work
    + (if st.draining then 0 else 1)

end Producer

end RecordRelay
