import RecordRelay.Delivery.Publisher
import RecordRelay.Proofs.Delivery.History
import RecordRelay.Proofs.Delivery.Sound

/-!
# The producer within the publisher

A publisher adds a drain, a ledger and the calls to close to a producer, and it touches the producer
only by steps of its own: when the drain records a report it takes it off the error channel, and
whoever calls close requests one. `exec_producer` makes that a statement about runs: **a run of the
publisher, seen from its producer, is a run of the producer**, with the same trace as far as the
producer is concerned. Whatever holds of every run of a producer therefore holds of every run of a
publisher.

`Move` lists the moves of a publisher, as it does for the producer.
-/

namespace RecordRelay.Publisher

open Occurrence

/-- What a **move** of a publisher needs, changes and shows. -/
inductive Move (st : State) : Action → State → List Occurrence → Prop where
  | producer {a : Producer.Action} {p : Producer.State} {os : List Occurrence}
      (free : st.free a) (move : Producer.Move st.producer a p os) :
    Move st (.producer a) { st with producer := p } os
  | record (n : Nat) (f : Undelivered) (rest : List Undelivered)
      (running : st.drain = .running n) (channel : st.producer.errors = f :: rest)
      (listening : st.producer.hasReceiver) :
    Move st .record
      { st with
        producer := { st.producer with errors := rest }
        drain := .running (n + 1)
        ledger := st.ledger.record f } [.received f, .recorded f]
  | endDrain (n : Nat) (running : st.drain = .running n) (stopped : st.producer.phase = .stopped)
      (empty : st.producer.errors = []) :
    Move st .endDrain { st with drain := .finished n } []
  | closeFirst (handle : st.producer.hasHandle) (tasks : st.hasTasks) :
    Move st .close
      { st with
        producer := { st.producer with closeRequested := true }
        hasTasks := false
        hasHolder := true } []
  | closeAgain (handle : st.producer.hasHandle) (tasks : st.hasTasks = false) :
    Move st .close { st with producer := { st.producer with closeRequested := true } }
      [.closeReturned false 0]
  | closeReturns (n : Nat) (finished : st.drain = .finished n) (holder : st.hasHolder)
      (stopped : st.producer.phase = .stopped) :
    Move st .closeReturns { st with hasHolder := false } [.closeReturned true n]
  | abandonClose (holder : st.hasHolder) :
    Move st .abandonClose { st with hasHolder := false } []

variable {st st' : State} {a : Action} {os : List Occurrence}

/-- Every step of a publisher is a move. -/
theorem Move.of_step (h : step a st = some (st', os)) : Move st a st' os := by
  cases a with
  | producer a =>
    simp only [step] at h
    split_ifs at h with hfree
    obtain ⟨⟨p, os'⟩, hp, heq⟩ := Option.map_eq_some_iff.mp h
    cases heq
    exact .producer hfree (.of_step hp)
  | record =>
    simp only [step] at h
    split at h
    · next n f rest hd he =>
      obtain ⟨⟨p, os'⟩, hp, heq⟩ := Option.map_eq_some_iff.mp h
      cases heq
      cases Producer.Move.of_step hp with
      | receive f' rest' channel listening =>
        cases he.symm.trans channel
        exact .record n f rest hd he listening
    · cases h
  | endDrain =>
    simp only [step] at h
    split at h
    · next n hd =>
      split_ifs at h with hs
      cases h
      exact .endDrain n hd hs.1 hs.2
    · cases h
  | close =>
    simp only [step] at h
    obtain ⟨⟨p, os'⟩, hp, heq⟩ := Option.map_eq_some_iff.mp h
    cases Producer.Move.of_step hp with
    | requestClose handle =>
      dsimp only at heq
      split_ifs at heq with ht <;> cases heq
      · exact .closeFirst handle ht
      · exact .closeAgain handle (by simpa using ht)
  | closeReturns =>
    simp only [step] at h
    split at h
    · next n hd =>
      split_ifs at h with hh
      cases h
      exact .closeReturns n hd hh.1 hh.2
    · cases h
  | abandonClose =>
    simp only [step] at h
    split_ifs at h with hh
    cases h
    exact .abandonClose hh

/-- **The steps of a publisher are its moves.** -/
theorem step_eq_some_iff : step a st = some (st', os) ↔ Move st a st' os := by
  refine ⟨Move.of_step, fun h => ?_⟩
  cases h with
  | producer free move => simp [step, free, Producer.step_eq_some_iff.mpr move]
  | record n f rest running channel listening =>
    simp [step, running, channel, Producer.step, listening]
  | endDrain n running stopped empty => simp [step, running, stopped, empty]
  | closeFirst handle tasks => simp [step, Producer.step, handle, tasks]
  | closeAgain handle tasks => simp [step, Producer.step, handle, tasks]
  | closeReturns n finished holder stopped => simp [step, finished, holder, stopped]
  | abandonClose holder => simp [step, holder]

/-! ## Seen from the producer -/

/-- What occurs in a move of the producer occurs to the producer. -/
theorem filter_ofProducer_of_move {p p' : Producer.State} {b : Producer.Action}
    (h : Producer.Move p b p' os) : os.filter ofProducer = os := by
  rw [List.filter_eq_self]
  cases h with
  | dropReceiver =>
    intro o ho
    obtain ⟨f, -, rfl⟩ := List.mem_map.mp ho
    rfl
  | _ => simp [ofProducer]

/-- A move of the publisher is at most one of its producer. -/
theorem Move.exec_producer (h : Move st a st' os) :
    exec Producer.step ([a].filterMap Action.onProducer?) st.producer
      = some (st'.producer, os.filter ofProducer) := by
  cases h with
  | producer free move =>
    rw [filter_ofProducer_of_move move]
    exact exec_singleton_eq_some_iff.mpr (Producer.step_eq_some_iff.mpr move)
  | record n f rest running channel listening =>
    exact exec_singleton_eq_some_iff.mpr
      (Producer.step_eq_some_iff.mpr (.receive f rest channel listening))
  | closeFirst handle _ | closeAgain handle _ =>
    exact exec_singleton_eq_some_iff.mpr (Producer.step_eq_some_iff.mpr (.requestClose handle))
  | endDrain | closeReturns | abandonClose => rfl

/-- **Seen from its producer a run of the publisher is a run of the producer.** -/
theorem exec_producer {st₀ : State} {as : List Action} {tr : List Occurrence}
    (h : exec step as st₀ = some (st, tr)) :
    exec Producer.step (as.filterMap Action.onProducer?) st₀.producer
      = some (st.producer, tr.filter ofProducer) := by
  refine exec_induction (motive := fun as st tr =>
    exec Producer.step (as.filterMap Action.onProducer?) st₀.producer
      = some (st.producer, tr.filter ofProducer)) rfl (fun as st tr a st' os _ ih ha => ?_) h
  rw [List.filterMap_append, List.filter_append, exec_append_eq_some_iff]
  exact ⟨st.producer, _, _, ih, (Move.of_step ha).exec_producer, rfl⟩

/-- A run of a publisher around a producer that has just started is one of that producer. -/
theorem exec_producer_start {capacity : Capacity} {kind : String} {st₀ : State} {as : List Action}
    {tr : List Occurrence} (h₀ : st₀.producer = Producer.start capacity kind)
    (h : exec step as st₀ = some (st, tr)) :
    exec Producer.step (as.filterMap Action.onProducer?) (Producer.start capacity kind)
      = some (st.producer, tr.filter ofProducer) :=
  h₀ ▸ exec_producer h

/-- The calls that a publisher starts are those that its producer starts. -/
theorem started_eq (as : List Action) :
    (as.filterMap Action.onProducer?).filterMap Producer.Action.start? = started as :=
  List.filterMap_filterMap

end RecordRelay.Publisher
