import RecordRelay.Delivery.Publisher

/-!
# Running a publisher

A **session** is a publisher with its sink and the contents of that sink. It runs on a clock of its
own that stands still while anything can happen: after every call the background tasks go on until
all of them wait, and only then does time pass. So a session is deterministic, and what it answers
is one of the things that the publisher's steps allow.

A call that has to wait ends in one of three ways: something lets it go on, its time is up, or it
is dropped. What happens in the meantime is given with the call, as a list of deeds and the
milliseconds after which they are done. A call whose time is up at the moment of a deed gives up
first.
-/

namespace RecordRelay

/-- A publisher with its **sink**. -/
structure Session (σ : Type) where
  /-- The sink. -/
  sink : Sink σ
  /-- The contents of the sink. -/
  store : σ
  /-- The publisher. -/
  state : Publisher.State
  /-- All that occurred, oldest first. -/
  trace : List Occurrence

namespace Session

variable {σ : Type}

/-- Starts a publisher on a sink. -/
def start (sink : Sink σ) (store : σ) (capacity : Capacity) : Session σ :=
  ⟨sink, store, Publisher.start capacity sink.kind, []⟩

/-- Starts a producer on a sink, without a drain. -/
def bare (sink : Sink σ) (store : σ) (capacity : Capacity) : Session σ :=
  ⟨sink, store, Publisher.bare capacity sink.kind, []⟩

/-- Takes a step if it can happen now. -/
def attempt? (w : Session σ) (a : Publisher.Action) : Option (Session σ) :=
  (Publisher.step a w.state).map fun (st, os) => { w with state := st, trace := w.trace ++ os }

/-- Takes a step, or none. -/
def perform (w : Session σ) (a : Publisher.Action) : Session σ := (w.attempt? a).getD w

/-- The answer of the sink, if the dispatcher waits for one and it comes. -/
def answer? (w : Session σ) : Option (Session σ) :=
  match w.state.producer.phase with
  | .appending s =>
    match w.sink.append s w.store with
    | some (result, store) => ({ w with store }).attempt? (.producer (.answer result))
    | none => none
  | .closing => w.attempt? (.producer (.sinkClosed (w.sink.close w.store)))
  | _ => none

/-- The steps that waiting submissions can take. -/
def wakings (p : Producer.State) : List Producer.Action :=
  (p.offered ++ p.waiting).map .resume ++ p.holding.map .send ++ p.sent.map .confirm

/-- The **next step of the background**: a submission that can go on, the dispatcher, the sink, the
drain, or a call to close that waited for them. -/
def background? (w : Session σ) : Option (Session σ) :=
  ((wakings w.state.producer).findSome? fun a => w.attempt? (.producer a)) <|>
    ([.drain, .report, .take, .finish].findSome? fun a => w.attempt? (.producer a)) <|>
    w.answer? <|>
    [.record, .endDrain, .closeReturns].findSome? w.attempt?

/-- Takes at most so many steps of the background. -/
def runFor : Nat → Session σ → Session σ
  | 0, w => w
  | fuel + 1, w =>
    match w.background? with
    | some next => runFor fuel next
    | none => w

/-- Lets the background go on **until all of it waits**. -/
def settle (w : Session σ) : Session σ := runFor w.state.work w

/-- What became of a submission. -/
inductive Outcome where
  | accepted
  | rejected (why : Rejection)
  | abandoned
  deriving DecidableEq, Repr

/-- What an occurrence says about a submission. -/
def outcomeIn (s : Submission) : Occurrence → Option Outcome
  | .accepted t => if t = s then some .accepted else none
  | .rejected t why => if t = s then some (.rejected why) else none
  | .abandoned t => if t = s then some .abandoned else none
  | _ => none

/-- Something that is done while a call waits. -/
abbrev Deed (σ : Type) := Session σ → Session σ

/-- The deed of dropping a submission. -/
def abandon (s : Submission) : Deed σ := fun w => w.perform (.producer (.abandon s))

/-- The deed of requesting a close. -/
def requestClose : Deed σ := fun w => w.perform .close

/-- The deed of changing the sink from outside. -/
def modify (f : σ → σ) : Deed σ := fun w => { w with store := f w.store }

/-- A submission hands itself in and goes on as long as it need not wait. -/
def enter (s : Submission) (w : Session σ) : Session σ :=
  [.submit s, .reserve s, .send s, .confirm s].foldl (fun w a => w.perform (.producer a)) w

/-- Gives up waiting, if the submission still waits. -/
def giveUp (s : Submission) (w : Session σ) : Session σ := w.perform (.producer (.timeOut s))

/-- Lets time pass until `deed` is due. -/
def passTo (s : Submission) (w : Session σ) (deed : Nat × Deed σ) : Session σ :=
  let w := w.settle
  let w := if w.state.producer.capacity.patienceMs ≤ deed.1 then (w.giveUp s).settle else w
  deed.2 w

/-- **Submits a message** and waits for the call to return. A call that need not wait returns before
anything else happens. -/
def publish (s : Submission) (meanwhile : List (Nat × Deed σ)) (w : Session σ) :
    Outcome × Session σ :=
  let entered := w.enter s
  let impatient := entered.state.producer.capacity.patienceMs = 0
  let entered := if impatient then entered.giveUp s else entered
  let after :=
    if meanwhile.isEmpty ∧ s ∉ entered.state.producer.pending then entered
    else ((meanwhile.foldl (passTo s) entered).settle).giveUp s
  (((after.trace.drop w.trace.length).findSome? (outcomeIn s)).getD .abandoned, after)

/-- What calls to close returned. -/
def closings (trace : List Occurrence) : List (Bool × Nat) :=
  trace.filterMap fun
    | .closeReturned holder n => some (holder, n)
    | _ => none

/-- Waits for the calls to close that were made since the trace had this length: what each of them
returns, the one that holds the tasks first. That one is dropped if it cannot return. -/
def awaitCloses (since : Nat) (w : Session σ) : List (Option Nat) × Session σ :=
  let after := w.settle
  let (held, others) := (closings (after.trace.drop since)).partition (·.1)
  if after.state.hasHolder then
    (none :: others.map (some ·.2), after.perform .abandonClose)
  else ((held ++ others).map (some ·.2), after)

/-- **Closes** the publisher by `k` calls at the same time: what each returns, if it returns. -/
def close (k : Nat) (w : Session σ) : List (Option Nat) × Session σ :=
  ((List.range k).foldl (fun w _ => w.requestClose) w).awaitCloses w.trace.length

/-- What a session meant for the metrics. -/
def events (w : Session σ) : List Metrics.Event := w.trace.filterMap Occurrence.event?

end Session

end RecordRelay
