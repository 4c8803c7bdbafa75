import RecordRelay.Proofs.Delivery.Publisher

/-!
# Sinks that never fail

Whoever submits a message learns whether it entered the queue, and nothing of what became of it
there. So the calls cannot tell a sink that fails from one that does not. To make this precise a run
is **forgiven**: every answer of the sink becomes a success, and whatever has to do with reports is
left out. `exec_forgive` says that the result is a run of the publisher again, in which the same
calls are started and end in the same ways.

The dispatcher that has a report to make stands, when forgiven, where it will go on afterwards. This
is why the forgiven run needs no step of its own for a report.
-/

namespace RecordRelay

/-- What is left of an occurrence when the sink is **forgiven**. -/
def Occurrence.forgive? : Occurrence → Option Occurrence
  | appended s _ => some (appended s (.ok ()))
  | sinkClosed _ => some (sinkClosed (.ok ()))
  | received _ | lost _ | recorded _ => none
  | closeReturned holder _ => some (closeReturned holder 0)
  | o => some o

open Occurrence

namespace Producer

/-- Where the dispatcher would stand if the sink **had not failed**. -/
def Phase.forgive : Phase → Phase
  | reporting _ last => afterReport last
  | phase => phase

/-- A producer whose sink **never failed**. -/
def State.forgive (st : State) : State := { st with phase := st.phase.forgive, errors := [] }

/-- What is left of an action when the sink is **forgiven**. -/
def Action.forgive? : Action → Option Action
  | answer _ => some (answer (.ok ()))
  | sinkClosed _ => some (sinkClosed (.ok ()))
  | report | receive => none
  | a => some a

variable {st st' : State} {a : Action} {os : List Occurrence}

/-- Slots are given away whatever the sink does. -/
theorem State.offer_forgive (st : State) : st.offer.forgive = st.forgive.offer := by
  have hdraining : st.forgive.draining = st.draining := rfl
  unfold offer
  rw [hdraining]
  split <;> rfl

/-- Where the dispatcher goes on after a report it needs no forgiving. -/
theorem Phase.forgive_afterReport (last : Bool) :
    (afterReport last).forgive = afterReport last := by
  cases last <;> rfl

/-- **A forgiven move is a move**, or it is no move at all. -/
theorem Move.forgive (h : Move st a st' os) :
    (a.forgive? = none ∧ st'.forgive = st.forgive ∧ os.filterMap forgive? = [])
      ∨ ∃ b, a.forgive? = some b ∧ Move st.forgive b st'.forgive (os.filterMap forgive?) := by
  -- only what has to do with reports is no move; the forgiven dispatcher already went on
  cases h with
  | refuse s hh hc => exact .inr ⟨_, rfl, .refuse s hh hc⟩
  | check s hh hc => exact .inr ⟨_, rfl, .check s hh hc⟩
  | reserveClosed s mem closed => exact .inr ⟨_, rfl, .reserveClosed s mem closed⟩
  | reserveSlot s mem running free => exact .inr ⟨_, rfl, .reserveSlot s mem running free⟩
  | reserveWait s mem running full => exact .inr ⟨_, rfl, .reserveWait s mem running full⟩
  | resumeClosed s mem closed => exact .inr ⟨_, rfl, .resumeClosed s mem closed⟩
  | resumeSlot s mem running => exact .inr ⟨_, rfl, .resumeSlot s mem running⟩
  | resumeTurnedAway s hs mem closed => exact .inr ⟨_, rfl, .resumeTurnedAway s hs mem closed⟩
  | send s mem => exact .inr ⟨_, rfl, .send s mem⟩
  | confirm s mem => exact .inr ⟨_, rfl, .confirm s mem⟩
  | timeOutWaiting s mem => exact .inr ⟨_, rfl, .timeOutWaiting s mem⟩
  | timeOutOffered s hs mem =>
    refine .inr ⟨_, rfl, ?_⟩
    rw [State.offer_forgive]
    exact .timeOutOffered s hs mem
  | abandonChecked s mem => exact .inr ⟨_, rfl, .abandonChecked s mem⟩
  | abandonWaiting s hs mem => exact .inr ⟨_, rfl, .abandonWaiting s hs mem⟩
  | abandonOffered s hs hs' mem =>
    refine .inr ⟨_, rfl, ?_⟩
    rw [State.offer_forgive]
    exact .abandonOffered s hs hs' mem
  | requestClose hh => exact .inr ⟨_, rfl, .requestClose hh⟩
  | dropHandle hh idle => exact .inr ⟨_, rfl, .dropHandle hh idle⟩
  | drain ready hc running =>
    exact .inr ⟨_, rfl, .drain (congrArg Phase.forgive ready) hc running⟩
  | take s rest ready queue =>
    refine .inr ⟨_, rfl, ?_⟩
    rw [State.offer_forgive]
    exact .take s rest (congrArg Phase.forgive ready) queue
  | answerOk s busy => exact .inr ⟨_, rfl, .answerOk s (congrArg Phase.forgive busy)⟩
  | answerError s fault busy => exact .inr ⟨_, rfl, .answerOk s (congrArg Phase.forgive busy)⟩
  | report f last busy _ _ | lose f last busy _ =>
    refine .inl ⟨rfl, ?_, rfl⟩
    simp only [State.forgive, busy, Phase.forgive_afterReport]
    rfl
  | finish ready empty last =>
    exact .inr ⟨_, rfl, .finish (congrArg Phase.forgive ready) empty last⟩
  | sinkClosedOk busy => exact .inr ⟨_, rfl, .sinkClosedOk (congrArg Phase.forgive busy)⟩
  | sinkClosedError fault busy =>
    exact .inr ⟨_, rfl, .sinkClosedOk (congrArg Phase.forgive busy)⟩
  | receive f rest channel _ => exact .inl ⟨rfl, rfl, rfl⟩
  | dropReceiver listening =>
    refine .inr ⟨_, rfl, ?_⟩
    rw [filterMap_map_lost (fun _ => rfl)]
    exact .dropReceiver listening

end Producer

namespace Publisher

/-- A drain that **never saw a report**. -/
def Drain.forgive : Drain → Drain
  | absent => absent
  | running _ => running 0
  | finished _ => finished 0

/-- A publisher whose sink **never failed**. -/
def State.forgive (st : State) : State :=
  { st with producer := st.producer.forgive, drain := st.drain.forgive, ledger := .empty }

/-- What is left of an action when the sink is **forgiven**. -/
def Action.forgive? : Action → Option Action
  | producer a => a.forgive?.map producer
  | record => none
  | a => some a

variable {st st' : State} {a : Action} {os : List Occurrence}

/-- What the producer is free to do it is free to do when forgiven. -/
theorem State.free_forgive {a b : Producer.Action} (h : a.forgive? = some b) (hfree : st.free a) :
    st.forgive.free b := by
  cases a with
  | answer | sinkClosed =>
    cases h
    rfl
  | report | receive => cases h
  | dropReceiver =>
    cases h
    have habsent : st.drain = .absent := of_decide_eq_true hfree
    simp [free, State.forgive, habsent, Drain.forgive]
  | _ =>
    cases h
    exact hfree

/-- A forgiven move of a publisher is a run of at most one move. -/
theorem Move.exec_forgive (h : Move st a st' os) :
    exec step ([a].filterMap Action.forgive?) st.forgive
      = some (st'.forgive, os.filterMap Occurrence.forgive?) := by
  have hone : ∀ {b}, Move st.forgive b st'.forgive (os.filterMap Occurrence.forgive?) →
      exec step [b] st.forgive = some (st'.forgive, os.filterMap Occurrence.forgive?) :=
    fun hmove => exec_singleton_eq_some_iff.mpr (step_eq_some_iff.mpr hmove)
  cases h with
  | @producer a p os free move =>
    obtain ⟨hnone, hstate, hos⟩ | ⟨b, hb, hmove⟩ := move.forgive
    · have hskip : Action.forgive? (.producer a) = none := by
        rw [Action.forgive?, hnone, Option.map_none]
      rw [hos, List.filterMap_cons_none hskip]
      exact congrArg (fun p => some ({ st.forgive with producer := p }, [])) hstate.symm
    · have hsome : Action.forgive? (.producer a) = some (.producer b) := by
        rw [Action.forgive?, hb, Option.map_some]
      rw [List.filterMap_cons_some hsome]
      exact hone (.producer (State.free_forgive hb free) hmove)
  | record n f rest running =>
    simp only [State.forgive, running]
    rfl
  | endDrain n running stopped _ =>
    refine hone (.endDrain 0 ?_ (congrArg Producer.Phase.forgive stopped) rfl)
    exact congrArg Drain.forgive running
  | closeFirst handle tasks => exact hone (.closeFirst handle tasks)
  | closeAgain handle tasks => exact hone (.closeAgain handle tasks)
  | closeReturns n finished holder stopped =>
    refine hone (.closeReturns 0 ?_ holder (congrArg Producer.Phase.forgive stopped))
    exact congrArg Drain.forgive finished
  | abandonClose holder => exact hone (.abandonClose holder)

/-- **A forgiven run is a run.** -/
theorem exec_forgive {st₀ : State} {as : List Action} {tr : List Occurrence}
    (h : exec step as st₀ = some (st, tr)) :
    exec step (as.filterMap Action.forgive?) st₀.forgive
      = some (st.forgive, tr.filterMap Occurrence.forgive?) := by
  refine exec_induction (motive := fun as st tr =>
    exec step (as.filterMap Action.forgive?) st₀.forgive
      = some (st.forgive, tr.filterMap Occurrence.forgive?)) rfl
    (fun as st tr a st' os _ ih ha => ?_) h
  rw [List.filterMap_append, List.filterMap_append, exec_append_eq_some_iff]
  exact ⟨st.forgive, _, _, ih, (Move.of_step ha).exec_forgive, rfl⟩

/-- In a forgiven run **nothing fails**. -/
theorem failures_forgive (kind : String) (tr : List Occurrence) :
    Producer.failures kind (tr.filterMap Occurrence.forgive?) = [] := by
  rw [Producer.failures, List.append_eq_nil_iff]
  simp only [List.filterMap_filterMap, List.filterMap_eq_nil_iff]
  constructor <;>
  · intro o _
    cases o <;> rfl

/-- In a forgiven run the calls **end as they did**. -/
theorem outcomes_forgive (tr : List Occurrence) :
    (tr.filterMap Occurrence.forgive?).filterMap outcome? = tr.filterMap outcome? := by
  rw [List.filterMap_filterMap]
  refine List.filterMap_congr (fun o _ => ?_)
  cases o <;> rfl

/-- In a forgiven run the same calls are started. -/
theorem started_forgive (as : List Action) :
    started (as.filterMap Action.forgive?) = started as := by
  rw [started, List.filterMap_filterMap]
  refine List.filterMap_congr (fun a _ => ?_)
  cases a with
  | producer a => cases a <;> rfl
  | _ => rfl

end Publisher

end RecordRelay
