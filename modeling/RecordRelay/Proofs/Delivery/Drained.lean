import RecordRelay.Proofs.Delivery.Shutdown

/-!
# What a call to close may conclude

A call to close is meant to wait until nothing is on its way any more: every message that was
accepted has been handed to the sink, the sink is closed, and every failure is in the ledger. Such a
publisher is `Drained`, and it is drained exactly when its drain has finished
(`drained_iff_finished`).

Only one call waits for that, the one that takes the tasks; the others find them gone. Gone means
that the call that took them has returned, or still waits, or was dropped while it waited
(`tasks_of_exec`), and only in the first case all is drained (`finished_of_tasks_gone`). In the two
others the tasks go on without anybody who waits for them, and a call that finds them gone returns
before they are at their end (`close_returns_undrained`).
-/

namespace RecordRelay.Publisher

open Occurrence

/-- A publisher is **drained** after this trace: nothing of the run is on its way any more. -/
structure Drained (kind : String) (st : State) (tr : List Occurrence) : Prop where
  /-- The dispatcher has stopped, -/
  stopped : st.producer.phase = .stopped
  /-- and the drain has finished, having seen all failures of the run. -/
  finished : st.drain = .finished (Producer.failures kind tr).length
  /-- Every message that was accepted has been handed to the sink, -/
  handed : ∀ s ∈ tr.filterMap accepted?, s ∈ tr.filterMap handed?
  /-- which answered for it before it was closed. -/
  sink : tr.filterMap sinkEvent?
    = (tr.filterMap entered?).flatMap Producer.exchange ++ Producer.farewell
  /-- Every failure is in the ledger, those of the appends and that of the closing. -/
  ledger : st.ledger = Ledger.ofList (Producer.failures kind tr)

variable {st st' : State} {a : Action} {os : List Occurrence} {capacity : Capacity} {kind : String}
  {as : List Action} {tr : List Occurrence}

/-- **A publisher is drained exactly when its drain has finished.** -/
theorem drained_iff_finished (h : exec step as (start capacity kind) = some (st, tr)) :
    Drained kind st tr ↔ ∃ n, st.drain = .finished n := by
  refine ⟨fun hdrained => ⟨_, hdrained.finished⟩, ?_⟩
  rintro ⟨n, hn⟩
  obtain ⟨hstopped, herrors⟩ := ended_of_exec h n hn
  have hrecorded : tr.filterMap recorded? = Producer.failures kind tr := by
    have hall := recorded_append_errors h
    rw [herrors, hstopped] at hall
    exact (List.append_nil _).symm.trans hall
  obtain ⟨hledger, hobserved⟩ := ledger_of_exec h
  rw [hn, hrecorded] at hobserved
  rw [hrecorded] at hledger
  constructor
  case stopped => exact hstopped
  case finished => rw [hn, Option.some.inj hobserved]
  case handed =>
    intro s hs
    -- what was accepted entered the queue, and of that nothing is left there
    have hentered : s ∈ tr.filterMap entered? :=
      (entered_perm rfl h).subset (List.mem_append_right _ hs)
    rwa [← handed_append_items rfl h, items_eq_nil_of_stopped rfl h hstopped, List.append_nil]
      at hentered
  case sink => exact sinkEvents_of_stopped rfl h hstopped
  case ledger => exact hledger

/-- A call to close that does not hold the tasks **finds them gone**. -/
theorem Move.hasTasks_eq_false (h : Move st a st' os) {n : Nat}
    (hret : .closeReturned false n ∈ os) : st.hasTasks = false := by
  cases h with
  | producer free move => exact absurd hret ((not_mem_of_move move).2.2 false n)
  | closeAgain _ tasks => exact tasks
  | _ => simp at hret

/-- No call to close returns in the moment in which the drain finishes. -/
theorem Move.drain_eq_of_closeReturned (h : Move st a st' os) {holder : Bool} {n : Nat}
    (hret : .closeReturned holder n ∈ os) : st'.drain = st.drain := by
  cases h with
  | producer free move => exact absurd hret ((not_mem_of_move move).2.2 holder n)
  | record | endDrain => simp at hret
  | _ => rfl

/-- Where the tasks are gone, and nobody waits for them or was dropped, **all is drained**. -/
theorem finished_of_tasks_gone (h : exec step as (start capacity kind) = some (st, tr))
    (htasks : st.hasTasks = false) (hholder : st.hasHolder = false) (hkept : .abandonClose ∉ as) :
    ∃ n, st.drain = .finished n := by
  obtain hwaiting | hheld | hreturned | hdropped := tasks_of_exec h
  · rw [htasks] at hwaiting
    cases hwaiting
  · rw [hholder] at hheld
    cases hheld
  · obtain ⟨n, hn⟩ := List.exists_mem_of_ne_nil _ hreturned
    exact ⟨n, (returned_of_exec h).1 n hn⟩
  · exact absurd hdropped hkept

/-- **What a call to close may conclude when it returns.** Whatever the sink answers, and in whatever
order calls, closes, dispatcher and drain have taken their steps:

* the call that held the tasks finds the publisher drained, and returns the number of all failures;
* every other call returns none, and finds the publisher drained if no call waits for the tasks and
  none that did was dropped;
* in all cases it is drained exactly if the drain had finished before. -/
theorem drained_at_return (h : exec step as (start capacity kind) = some (st, tr))
    (hstep : step a st = some (st', os)) {holder : Bool} {n : Nat}
    (hret : .closeReturned holder n ∈ os) :
    (holder = true →
      Drained kind st' (tr ++ os) ∧ n = (Producer.failures kind (tr ++ os)).length)
    ∧ (holder = false → n = 0
      ∧ (st.hasHolder = false → .abandonClose ∉ as → Drained kind st' (tr ++ os)))
    ∧ (Drained kind st' (tr ++ os) ↔ ∃ m, st.drain = .finished m) := by
  have hmove := Move.of_step hstep
  have hdrain : st'.drain = st.drain := hmove.drain_eq_of_closeReturned hret
  have hiff : Drained kind st' (tr ++ os) ↔ ∃ m, st.drain = .finished m := by
    rw [← hdrain]
    exact drained_iff_finished (exec_concat h hstep)
  refine ⟨?_, ?_, hiff⟩
  · rintro rfl
    have hn : st'.drain = .finished n := hmove.returned (List.mem_filterMap.mpr ⟨_, hret, rfl⟩)
    have hdrained : Drained kind st' (tr ++ os) := hiff.mpr ⟨n, hdrain.symm.trans hn⟩
    exact ⟨hdrained, Drain.finished.inj (hn.symm.trans hdrained.finished)⟩
  · rintro rfl
    refine ⟨hmove.closeReturned_false hret, fun hholder hkept => ?_⟩
    exact hiff.mpr (finished_of_tasks_gone h (hmove.hasTasks_eq_false hret) hholder hkept)

/-- When the second call of the crowded run returns, the publisher is drained. -/
theorem drained_at_return_crowded :
    ∃ st tr st' os, exec step crowded.dropLast (start ⟨0, 0, 50⟩ "file") = some (st, tr)
      ∧ step .close st = some (st', os) ∧ .closeReturned false 0 ∈ os
      ∧ Drained "file" st' (tr ++ os) := by
  obtain ⟨-, hother, -⟩ := drained_at_return
    (rfl : exec step crowded.dropLast (start ⟨0, 0, 50⟩ "file") = some (_, _))
    (rfl : step .close _ = some (_, _)) (List.mem_singleton_self (closeReturned false 0))
  refine ⟨_, _, _, _, rfl, rfl, List.mem_singleton_self _, (hother rfl).2 rfl ?_⟩
  simp [crowded]

/-- A call to close that comes after these actions **returns too early**: it returns at once, and a
message that was accepted has not been handed to the sink, which is not closed either. -/
def ReturnsUndrained (as : List Action) (s : Submission) : Prop :=
  ∃ st tr st' os, exec step as (start ⟨1024, 256, 1000⟩ "scripted") = some (st, tr)
    ∧ step .close st = some (st', os) ∧ .closeReturned false 0 ∈ os
    ∧ s ∈ (tr ++ os).filterMap accepted? ∧ s ∉ (tr ++ os).filterMap handed?
    ∧ (tr ++ os).filterMap closing? = [] ∧ ¬ Drained "scripted" st' (tr ++ os)

/-- A run that leaves the first message with the sink and the second one in the queue, while **a
call to close waits**. -/
def halfway : List Action :=
  [.producer (.submit (letter "a")), .producer (.reserve (letter "a")),
    .producer (.send (letter "a")), .producer (.confirm (letter "a")), .producer .take,
    .producer (.submit (letter "b")), .producer (.reserve (letter "b")),
    .producer (.send (letter "b")), .producer (.confirm (letter "b")), .close]

/-- **A call to close may return while the sink still has messages to come**: behind a call that
still waits, and behind one that was dropped while it waited. -/
theorem close_returns_undrained :
    ReturnsUndrained halfway (letter "b")
      ∧ ReturnsUndrained (halfway ++ [.abandonClose]) (letter "b") := by
  have hrunning : ∀ {st : State} {tr : List Occurrence}, st.drain = .running 0 →
      ¬ Drained "scripted" st tr := by
    intro st tr hrunning hdrained
    rw [hdrained.finished] at hrunning
    cases hrunning
  constructor
  · exact ⟨_, _, _, _, rfl, rfl, List.mem_singleton_self _, by decide, by decide, rfl,
      hrunning rfl⟩
  · exact ⟨_, _, _, _, rfl, rfl, List.mem_singleton_self _, by decide, by decide, rfl,
      hrunning rfl⟩

end RecordRelay.Publisher
