import Mathlib.Data.List.Basic
import RecordRelay.Delivery.Session

/-!
# Histories

A trace lists all that occurred in a run, of every kind and in one order. The theorems speak of one
kind at a time: the submissions that entered the queue, what the sink was asked and what it said,
how the calls ended, which reports were made and where they went. Each of these is read off an
occurrence by a function into an option, and off a trace by `List.filterMap`, which keeps the order.

Two more readings go the other way, from actions: which submissions were started, and whether a
close was requested.
-/

namespace RecordRelay

/-- What happens between the dispatcher and the **sink**: a call, or its end. -/
inductive SinkEvent where
  /-- The sink is handed a message. -/
  | appends (s : Submission)
  /-- The sink has answered for it. -/
  | appended (s : Submission)
  /-- The sink is asked to close. -/
  | closes
  /-- The sink has answered. -/
  | closed
  deriving DecidableEq, Repr

namespace Occurrence

/-- The submission that entered the queue. -/
def entered? : Occurrence → Option Submission
  | entered s => some s
  | _ => none

/-- The message that was handed to the sink. -/
def handed? : Occurrence → Option Submission
  | handed s => some s
  | _ => none

/-- What the sink answered, and for which message. -/
def answer? : Occurrence → Option (Submission × Except SinkFault Unit)
  | appended s result => some (s, result)
  | _ => none

/-- The message that the sink took. -/
def delivered? : Occurrence → Option Submission
  | appended s (.ok ()) => some s
  | _ => none

/-- What happened between the dispatcher and the sink. -/
def sinkEvent? : Occurrence → Option SinkEvent
  | handed s => some (.appends s)
  | appended s _ => some (.appended s)
  | sinkClosing => some .closes
  | sinkClosed _ => some .closed
  | _ => none

/-- How closing the sink ended. -/
def closing? : Occurrence → Option (Except SinkFault Unit)
  | sinkClosed result => some result
  | _ => none

/-- How a call ended, and whose it was. -/
def outcome? : Occurrence → Option (Submission × Session.Outcome)
  | accepted s => some (s, .accepted)
  | rejected s why => some (s, .rejected why)
  | abandoned s => some (s, .abandoned)
  | _ => none

/-- The submission whose call returned its identifier. -/
def accepted? : Occurrence → Option Submission
  | accepted s => some s
  | _ => none

/-- The submission whose call was refused. -/
def rejected? : Occurrence → Option Submission
  | rejected s _ => some s
  | _ => none

/-- The submission whose call was dropped. -/
def abandoned? : Occurrence → Option Submission
  | abandoned s => some s
  | _ => none

/-- The submission whose call ended, in whatever way. -/
def ended? (o : Occurrence) : Option Submission := o.outcome?.map Prod.fst

/-- The **report** that a failure asks for, if the sink is of this kind. -/
def report? (kind : String) : Occurrence → Option Undelivered
  | appended s (.error fault) => some (Producer.reportOf s fault)
  | sinkClosed (.error fault) => some (Producer.closingReport kind fault)
  | _ => none

/-- The report that left the producer, taken or lost. -/
def left? : Occurrence → Option Undelivered
  | received f => some f
  | lost f => some f
  | _ => none

/-- The report that was entered into the ledger. -/
def recorded? : Occurrence → Option Undelivered
  | recorded f => some f
  | _ => none

/-- The call to close that held the tasks, when it returns. -/
def returned? : Occurrence → Option Nat
  | closeReturned true n => some n
  | _ => none

/-- Whether it is the producer to which something occurred, and not to those around it. -/
def ofProducer : Occurrence → Bool
  | recorded _ => false
  | closeReturned _ _ => false
  | _ => true

/-- What only occurs to the producer is not lost by looking at the producer alone. -/
theorem filterMap_filter_ofProducer {β : Type} {f : Occurrence → Option β}
    (hrecorded : ∀ r, f (recorded r) = none)
    (hreturned : ∀ holder n, f (closeReturned holder n) = none) (tr : List Occurrence) :
    (tr.filter ofProducer).filterMap f = tr.filterMap f := by
  rw [List.filterMap_filter]
  refine List.filterMap_congr (fun o _ => ?_)
  cases o with
  | recorded r => exact (hrecorded r).symm
  | closeReturned holder n => exact (hreturned holder n).symm
  | _ => rfl

/-- Lost reports are all that occurs when a channel is given up. -/
theorem filterMap_map_lost {β : Type} {f : Occurrence → Option β} (hf : ∀ r, f (lost r) = none)
    (l : List Undelivered) : (l.map lost).filterMap f = [] := by
  rw [List.filterMap_map]
  exact List.filterMap_eq_nil_iff.mpr (fun r _ => hf r)

/-- Each end of a call is of one of three kinds. -/
theorem count_ended (x : Submission) (tr : List Occurrence) :
    (tr.filterMap ended?).count x = (tr.filterMap accepted?).count x
      + (tr.filterMap rejected?).count x + (tr.filterMap abandoned?).count x := by
  induction tr with
  | nil => rfl
  | cons o tr ih =>
    cases o with
    | accepted s | rejected s _ | abandoned s =>
      simp only [List.filterMap_cons, ended?, outcome?, accepted?, rejected?, abandoned?,
        Option.map_some, List.count_cons] at ih ⊢
      omega
    | _ => exact ih

/-- **A call ends in one of three ways**: it returns an identifier, it is refused, or it is
dropped. -/
theorem ended_perm (tr : List Occurrence) :
    (tr.filterMap ended?).Perm
      (tr.filterMap accepted? ++ tr.filterMap rejected? ++ tr.filterMap abandoned?) :=
  List.perm_iff_count.mpr fun x => by
    rw [count_ended, List.count_append, List.count_append]

end Occurrence

namespace Producer

/-- The submission that an action **starts**. -/
def Action.start? : Action → Option Submission
  | submit s => some s
  | _ => none

/-- What the sink still **owes** the dispatcher. -/
def Phase.owed : Phase → List SinkEvent
  | appending s => [.appended s]
  | closing => [.closed]
  | _ => []

/-- The message that the sink has and has not answered for. -/
def Phase.inHand : Phase → List Submission
  | appending s => [s]
  | _ => []

/-- The report that the dispatcher is about to make. -/
def Phase.unsaid : Phase → List Undelivered
  | reporting f _ => [f]
  | _ => []

/-- Whether the sink was asked to close. -/
def Phase.isOver : Phase → Bool
  | closing => true
  | reporting _ last => last
  | stopped => true
  | _ => false

/-- Whether the sink has answered that. -/
def Phase.isClosed : Phase → Bool
  | reporting _ last => last
  | stopped => true
  | _ => false

/-- The report for an answer of the sink, if it is a failure. -/
def appendReport? : Submission × Except SinkFault Unit → Option Undelivered
  | (s, .error fault) => some (reportOf s fault)
  | (_, .ok _) => none

/-- The report for the end of a sink of this kind, if it is a failure. -/
def closeReport? (kind : String) : Except SinkFault Unit → Option Undelivered
  | .error fault => some (closingReport kind fault)
  | .ok _ => none

/-- **All failures** of a run on a sink of this kind: the failed appends in the order in which the
sink answered, and behind them the failure to close, if it failed. -/
def failures (kind : String) (tr : List Occurrence) : List Undelivered :=
  (tr.filterMap Occurrence.answer?).filterMap appendReport?
    ++ (tr.filterMap Occurrence.closing?).filterMap (closeReport? kind)

end Producer

namespace Publisher

/-- How many reports a drain has **seen**, if there is a drain. -/
def Drain.observed? : Drain → Option Nat
  | absent => none
  | running n => some n
  | finished n => some n

/-- The step of the producer that an action is made of, if it is made of one. -/
def Action.onProducer? : Action → Option Producer.Action
  | producer a => some a
  | record => some .receive
  | close => some .requestClose
  | _ => none

/-- The submission that an action **starts**. -/
def Action.start? (a : Action) : Option Submission := a.onProducer?.bind Producer.Action.start?

/-- The **calls** that the actions start, in order. -/
def started (as : List Action) : List Submission := as.filterMap Action.start?

/-- Whether **a close was requested** by these actions. -/
def CloseRequested (as : List Action) : Prop := .requestClose ∈ as.filterMap Action.onProducer?

end Publisher

end RecordRelay
