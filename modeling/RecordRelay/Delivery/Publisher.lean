import RecordRelay.Delivery.Ledger
import RecordRelay.Delivery.Producer
import RecordRelay.Metrics

/-!
# The publisher

A publisher is a producer with a **drain**: a second background task that takes every report off the
error channel and enters it into the ledger. The drain ends when the dispatcher has stopped and the
channel is empty. The first call to close takes hold of both tasks, waits for them and returns how
many failures the drain has seen; every other call finds nothing to wait for and returns none.

A producer may also stand alone. Then there is no drain, and whoever holds the other end of the
error channel takes the reports.
-/

namespace RecordRelay.Publisher

/-- The **drain**, with the number of reports it has seen. -/
inductive Drain where
  /-- There is no drain; somebody else takes the reports. -/
  | absent
  | running (observed : Nat)
  | finished (observed : Nat)
  deriving DecidableEq, Repr

/-- The state of a **publisher**. -/
structure State where
  /-- The producer. -/
  producer : Producer.State
  /-- The drain. -/
  drain : Drain
  /-- The ledger of failed deliveries. -/
  ledger : Ledger
  /-- Whether the tasks still wait for somebody to close them. -/
  hasTasks : Bool
  /-- Whether a call to close waits for the tasks. -/
  hasHolder : Bool
  deriving DecidableEq

/-- A publisher that has just started. -/
def start (capacity : Capacity) (kind : String) : State :=
  ⟨Producer.start capacity kind, .running 0, .empty, true, false⟩

/-- **Spawns** a publisher: its producer is spawned, and then the drain starts. -/
def spawn (capacity : Capacity) (kind : String) : Except Channel.Crash State := do
  let producer ← Producer.spawn capacity kind
  .ok { start capacity kind with producer }

/-- A producer that stands alone. -/
def bare (capacity : Capacity) (kind : String) : State :=
  ⟨Producer.start capacity kind, .absent, .empty, false, false⟩

/-- What can happen next. -/
inductive Action where
  /-- A step of the producer. -/
  | producer (a : Producer.Action)
  /-- The drain enters a report into the ledger. -/
  | record
  /-- The drain finds that no report will come any more. -/
  | endDrain
  /-- Somebody calls close. -/
  | close
  /-- The call to close that waits for the tasks returns. -/
  | closeReturns
  /-- The call to close that waits for the tasks is dropped. -/
  | abandonClose

/-- Whether a step of the producer is **free** to happen: the drain has the receiving end of the
error channel to itself, and a call to close that waits keeps the handle. -/
def State.free (st : State) : Producer.Action → Bool
  | .receive | .dropReceiver => st.drain = .absent
  | .dropHandle => !st.hasHolder
  | _ => true

/-- **One step**: the state after it and what occurred, or nothing if it cannot happen now. -/
def step (a : Action) (st : State) : Option (State × List Occurrence) :=
  match a with
  | .producer a =>
    if st.free a then
      (Producer.step a st.producer).map fun (p, os) => ({ st with producer := p }, os)
    else none
  | .record =>
    match st.drain, st.producer.errors with
    | .running n, f :: _ =>
      (Producer.step .receive st.producer).map fun (p, os) =>
        ({ st with producer := p, drain := .running (n + 1), ledger := st.ledger.record f },
          os ++ [.recorded f])
    | _, _ => none
  | .endDrain =>
    match st.drain with
    | .running n =>
      if st.producer.phase = .stopped ∧ st.producer.errors = [] then
        some ({ st with drain := .finished n }, [])
      else none
    | _ => none
  | .close =>
    -- the first call takes hold of the tasks and waits, every other one returns at once
    (Producer.step .requestClose st.producer).map fun (p, os) =>
      if st.hasTasks then ({ st with producer := p, hasTasks := false, hasHolder := true }, os)
      else ({ st with producer := p }, os ++ [.closeReturned false 0])
  | .closeReturns =>
    match st.drain with
    | .finished n =>
      if st.hasHolder ∧ st.producer.phase = .stopped then
        some ({ st with hasHolder := false }, [.closeReturned true n])
      else none
    | _ => none
  | .abandonClose => if st.hasHolder then some ({ st with hasHolder := false }, []) else none

/-- How much **work** is left for the background tasks and those who wait for them. -/
def State.work (st : State) : Nat :=
  st.producer.work + (match st.drain with | .running _ => 1 | _ => 0)
    + (if st.hasTasks then 1 else 0) + (if st.hasHolder then 1 else 0)

end RecordRelay.Publisher

namespace RecordRelay

open Metrics in
/-- What an occurrence means for the **metrics** of a publisher. -/
def Occurrence.event? : Occurrence → Option Event
  | accepted s => some (.submitted s.payload.size)
  | rejected _ _ => some .submitRejected
  | appended _ (.ok ()) => some .delivered
  | recorded _ => some .deliveryFailed
  | _ => none

end RecordRelay
