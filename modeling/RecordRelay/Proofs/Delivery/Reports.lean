import RecordRelay.Proofs.Delivery.Counters
import RecordRelay.Proofs.Delivery.Queue

/-!
# Reports

A failure is on its way from the sink to the ledger: the dispatcher makes a report of it, the error
channel holds the report, the drain records it. **No failure is lost on that way and none is counted
twice.** The way is a pipe, like the queue; at every moment the reports recorded so far, those in
the channel and the one the dispatcher is about to make are the failures there were, in the order in
which the sink answered, and behind them the failure to close the sink, if that failed.

The call to close that holds the tasks returns when both are at their end. Then nothing is on its
way any more, and what it returns is the number of all failures of the run. `Accounted` collects
what is known of a failure at every moment.
-/

namespace RecordRelay

namespace Producer

open Occurrence

variable {st st' : State} {a : Action} {os : List Occurrence}

/-- **The way of the reports is a pipe**: a failure enters it when the sink answers, and leaves it
when the report is taken off the channel, or lost. -/
theorem Move.report_flow (h : Move st a st' os)
    (hdeaf : st.hasReceiver = false → st.errors = []) :
    os.filterMap left? ++ (st'.errors ++ st'.phase.unsaid)
      = st.errors ++ st.phase.unsaid ++ os.filterMap (report? st.kind) := by
  cases h with
  | timeOutOffered | abandonOffered =>
    rw [State.offer_errors, State.offer_phase]
    exact (List.append_nil _).symm
  | take s rest ready _ =>
    rw [State.offer_errors, State.offer_phase, ready]
    exact (List.append_nil _).symm
  | answerOk s busy | sinkClosedOk busy =>
    rw [busy]
    exact (List.append_nil _).symm
  | answerError s fault busy | sinkClosedError fault busy =>
    rw [busy]
    exact congrArg (· ++ _) (List.append_nil st.errors).symm
  | report f last busy _ _ =>
    rw [busy]
    cases last <;> simp [Phase.afterReport, Phase.unsaid]
  | lose f last busy deaf =>
    -- the lost report overtakes none: a channel that nobody listens to is empty
    rw [busy, hdeaf deaf]
    cases last <;> rfl
  | finish ready _ _ =>
    rw [ready]
    exact (List.append_nil _).symm
  | receive f rest channel _ =>
    rw [channel]
    exact (List.append_nil _).symm
  | dropReceiver =>
    have hleft : (st.errors.map lost).filterMap left? = st.errors := by
      rw [List.filterMap_map]
      exact List.filterMap_some
    rw [hleft, filterMap_map_lost (fun _ => rfl), List.append_nil]
    rfl
  | _ => exact (List.append_nil _).symm

/-- A move tells of appends, or of the closing, but not of both. -/
theorem Move.reports_eq (h : Move st a st' os) (kind : String) :
    os.filterMap answer? = []
        ∧ os.filterMap (report? kind) = (os.filterMap closing?).filterMap (closeReport? kind)
      ∨ st.phase.isClosed = false ∧ os.filterMap closing? = []
        ∧ os.filterMap (report? kind) = (os.filterMap answer?).filterMap appendReport? := by
  cases h with
  | answerOk s busy | answerError s fault busy =>
    rw [busy]
    exact .inr ⟨rfl, rfl, rfl⟩
  | dropReceiver =>
    refine .inl ⟨filterMap_map_lost (fun _ => rfl) _, ?_⟩
    rw [filterMap_map_lost (fun _ => rfl), filterMap_map_lost (fun _ => rfl)]
    rfl
  | _ => exact .inl ⟨rfl, rfl⟩

/-- The sink answers once that it is closed. -/
theorem Move.length_closing (h : Move st a st' os) :
    st.phase.isClosed.toNat + (os.filterMap closing?).length = st'.phase.isClosed.toNat := by
  cases h with
  | timeOutOffered | abandonOffered =>
    rw [State.offer_phase]
    rfl
  | take s rest ready _ =>
    rw [State.offer_phase, ready]
    rfl
  | answerOk s busy | answerError s _ busy | sinkClosedOk busy | sinkClosedError _ busy
  | finish busy _ _ =>
    rw [busy]
    rfl
  | report f last busy _ _ | lose f last busy _ =>
    rw [busy]
    cases last <;> rfl
  | dropReceiver =>
    rw [filterMap_map_lost (fun _ => rfl)]
    rfl
  | _ => rfl

/-- Whoever listens goes on listening, until the channel is given up. -/
theorem Move.hasReceiver_eq (h : Move st a st' os) (ha : a ≠ .dropReceiver) :
    st'.hasReceiver = st.hasReceiver := by
  cases h with
  | dropReceiver => exact absurd rfl ha
  | _ => simp

/-- While somebody listens, a report leaves only by being taken. -/
theorem Move.left_eq_nil (h : Move st a st' os) (hr : st.hasReceiver) (ha : a ≠ .receive)
    (ha' : a ≠ .dropReceiver) : os.filterMap left? = [] := by
  cases h with
  | receive => exact absurd rfl ha
  | dropReceiver => exact absurd rfl ha'
  | lose f last _ deaf =>
    rw [hr] at deaf
    cases deaf
  | _ => rfl

/-- **A dispatcher that has stopped** makes no more reports. -/
theorem Move.stopped (h : Move st a st' os) (hstop : st.phase = .stopped) (hnil : st.errors = []) :
    st'.phase = .stopped ∧ st'.errors = [] := by
  cases h with
  | timeOutOffered | abandonOffered =>
    rw [State.offer_phase, State.offer_errors]
    exact ⟨hstop, hnil⟩
  | drain busy | take _ _ busy | answerOk _ busy | answerError _ _ busy | report _ _ busy
  | lose _ _ busy | finish busy | sinkClosedOk busy | sinkClosedError _ busy =>
    rw [hstop] at busy
    cases busy
  | receive f rest channel _ =>
    rw [hnil] at channel
    cases channel
  | dropReceiver => exact ⟨hstop, rfl⟩
  | _ => exact ⟨hstop, hnil⟩

variable {capacity : Capacity} {kind : String} {as : List Action} {tr : List Occurrence}

/-- **No report is lost on its way, and none is doubled.** -/
theorem left_append_errors (h : exec step as (start capacity kind) = some (st, tr)) :
    tr.filterMap left? ++ (st.errors ++ st.phase.unsaid) = tr.filterMap (report? kind) := by
  refine exec_flow (q := fun st => st.errors ++ st.phase.unsaid)
    (fun _ _ => List.filterMap_append) (fun _ _ => List.filterMap_append)
    (fun as s tr a t os hrun ha => ?_) h
  have hmove := (Move.of_step ha).report_flow (Sound.of_exec hrun).deaf
  rw [(capacity_kind_of_exec hrun).2] at hmove
  exact hmove

/-- The sink answers at most once that it is closed, and the failures of a run are those of the
appends and, **behind them**, that of the closing. -/
theorem reports_eq_failures (h : exec step as (start capacity kind) = some (st, tr)) :
    (tr.filterMap closing?).length = st.phase.isClosed.toNat
      ∧ tr.filterMap (report? kind) = failures kind tr := by
  refine exec_induction (motive := fun _ st tr =>
    (tr.filterMap closing?).length = st.phase.isClosed.toNat
      ∧ tr.filterMap (report? kind) = failures kind tr) ⟨rfl, rfl⟩
    (fun as st tr a st' os _ ih ha => ?_) h
  obtain ⟨hlen, hsplit⟩ := ih
  have hmove := Move.of_step ha
  constructor
  · rw [List.filterMap_append, List.length_append, hlen, hmove.length_closing]
  · rw [List.filterMap_append, hsplit, failures, failures]
    simp only [List.filterMap_append]
    obtain ⟨hans, hrep⟩ | ⟨hopen, hclose, hrep⟩ := hmove.reports_eq kind
    · rw [hans, hrep, List.filterMap_nil, List.append_nil, List.append_assoc]
    · -- an append that is answered now was answered before the sink could be closed
      rw [hopen, Bool.toNat_false, List.length_eq_zero_iff] at hlen
      rw [hlen, hclose, hrep]
      simp

end Producer

namespace Publisher

open Occurrence

variable {st st' : State} {a : Action} {os : List Occurrence}

/-- Nothing that occurs to the producer is recorded, or returned by a call to close. -/
theorem not_mem_of_move {p p' : Producer.State} {b : Producer.Action}
    (h : Producer.Move p b p' os) :
    os.filterMap recorded? = [] ∧ os.filterMap returned? = []
      ∧ ∀ holder n, .closeReturned holder n ∉ os := by
  have hos := filter_ofProducer_of_move h
  rw [List.filter_eq_self] at hos
  refine ⟨?_, ?_, fun holder n hmem => Bool.false_ne_true (hos _ hmem)⟩
  all_goals
    refine List.filterMap_eq_nil_iff.mpr (fun o ho => ?_)
    cases o with
    | recorded | closeReturned => exact absurd (hos _ ho) Bool.false_ne_true
    | _ => rfl

/-! ## The drain -/

/-- A publisher is **attended**: it has a drain, and nobody else takes reports off the channel. -/
def State.Attended (st : State) : Prop := st.producer.hasReceiver ∧ st.drain ≠ .absent

/-- Where there is a drain the producer does not touch the far end of the error channel. -/
theorem State.Attended.free {b : Producer.Action} (h : st.Attended) (hfree : st.free b) :
    b ≠ .receive ∧ b ≠ .dropReceiver := by
  constructor <;> rintro rfl <;> exact h.2 (by simpa [State.free] using hfree)

/-- A publisher stays attended. -/
theorem Move.attended (h : Move st a st' os) (hat : st.Attended) : st'.Attended := by
  cases h with
  | producer free move => exact ⟨(move.hasReceiver_eq (hat.free free).2).trans hat.1, hat.2⟩
  | record => exact ⟨hat.1, fun hn => nomatch hn⟩
  | endDrain => exact ⟨hat.1, fun hn => nomatch hn⟩
  | _ => exact hat

/-- Where there is a drain, reports leave the channel **only for the ledger**. -/
theorem Move.left_eq_recorded (h : Move st a st' os) (hat : st.Attended) :
    os.filterMap left? = os.filterMap recorded? := by
  cases h with
  | producer free move =>
    rw [move.left_eq_nil hat.1 (hat.free free).1 (hat.free free).2, (not_mem_of_move move).1]
  | _ => rfl

/-- What is recorded is entered into the ledger. -/
theorem Move.ledger_eq (h : Move st a st' os) :
    st'.ledger = (os.filterMap recorded?).foldl Ledger.record st.ledger := by
  cases h with
  | producer free move =>
    rw [(not_mem_of_move move).1]
    rfl
  | _ => rfl

/-- The drain counts what it records. -/
theorem Move.observed_eq (h : Move st a st' os) :
    st'.drain.observed? = st.drain.observed?.map (· + (os.filterMap recorded?).length) := by
  cases h with
  | producer free move =>
    rw [(not_mem_of_move move).1]
    exact Option.map_id.symm ▸ rfl
  | record n f rest running | endDrain n running =>
    rw [running]
    rfl
  | _ => exact (congrFun Option.map_id _).symm

/-- The drain ends when **no report can come any more**. -/
def State.Ended (st : State) : Prop :=
  ∀ n, st.drain = .finished n → st.producer.phase = .stopped ∧ st.producer.errors = []

/-- No report comes after the drain has ended. -/
theorem Move.ended (h : Move st a st' os) (hend : st.Ended) : st'.Ended := by
  intro n hn
  cases h with
  | producer free move =>
    obtain ⟨hstop, hnil⟩ := hend n hn
    exact move.stopped hstop hnil
  | record => cases hn
  | endDrain _ _ stopped empty => exact ⟨stopped, empty⟩
  | _ => exact hend n hn

/-! ## Calls to close -/

/-- A drain that has ended stays as it is. -/
theorem Move.finished (h : Move st a st' os) {n : Nat} (hn : st.drain = .finished n) :
    st'.drain = .finished n := by
  cases h with
  | record _ _ _ running | endDrain _ running =>
    rw [running] at hn
    cases hn
  | _ => exact hn

/-- The call to close that held the tasks returns **what the drain has seen**. -/
theorem Move.returned (h : Move st a st' os) {n : Nat} (hn : n ∈ os.filterMap returned?) :
    st'.drain = .finished n := by
  cases h with
  | producer free move =>
    rw [(not_mem_of_move move).2.1] at hn
    cases hn
  | closeReturns m finished =>
    rw [List.mem_singleton.mp hn]
    exact finished
  | _ => cases hn

/-- The tasks are taken **once**, and whoever took them returns once. -/
theorem Move.length_returned (h : Move st a st' os) :
    (os.filterMap returned?).length + st'.hasHolder.toNat + st'.hasTasks.toNat
      ≤ st.hasHolder.toNat + st.hasTasks.toNat := by
  cases h with
  | producer free move =>
    rw [(not_mem_of_move move).2.1]
    exact Nat.le_of_eq (congrArg (· + _) (Nat.zero_add _))
  | closeFirst _ tasks =>
    rw [tasks]
    exact Nat.le_add_left _ _
  | closeReturns n _ holder _ =>
    rw [holder]
    exact Nat.le_refl _
  | abandonClose holder =>
    rw [holder]
    exact Nat.add_le_add_right (Nat.zero_le _) _
  | _ => exact Nat.le_of_eq (congrArg (· + _) (Nat.zero_add _))

/-- A call to close that finds the tasks taken **returns none**. -/
theorem Move.closeReturned_false (h : Move st a st' os) {n : Nat}
    (hn : .closeReturned false n ∈ os) : n = 0 := by
  cases h with
  | producer free move => exact absurd hn ((not_mem_of_move move).2.2 false n)
  | closeAgain =>
    cases List.mem_singleton.mp hn
    rfl
  | _ => simp at hn

/-! ## Along a run -/

variable {capacity : Capacity} {kind : String} {as : List Action} {tr : List Occurrence}

/-- A publisher is attended wherever a run leads. -/
theorem attended_of_exec (h : exec step as (start capacity kind) = some (st, tr)) : st.Attended :=
  exec_invariant (P := State.Attended) ⟨rfl, Drain.noConfusion⟩
    (fun _ _ _ _ hat ha => (Move.of_step ha).attended hat) h

/-- Reports that left the channel were recorded, and **none was lost**. -/
theorem left_eq_recorded (h : exec step as (start capacity kind) = some (st, tr)) :
    tr.filterMap left? = tr.filterMap recorded? := by
  have hflow : tr.filterMap left? ++ [] = [] ++ tr.filterMap recorded? := by
    refine exec_flow (q := fun _ => []) (fun _ _ => List.filterMap_append)
      (fun _ _ => List.filterMap_append) (fun _ _ _ a t os hrun ha => ?_) h
    rw [List.append_nil, List.nil_append]
    exact (Move.of_step ha).left_eq_recorded (attended_of_exec hrun)
  rwa [List.append_nil] at hflow

/-- The reports that were recorded, those in the channel and the one that is about to be made are
**the failures there were**. -/
theorem recorded_append_errors (h : exec step as (start capacity kind) = some (st, tr)) :
    tr.filterMap recorded? ++ (st.producer.errors ++ st.producer.phase.unsaid)
      = Producer.failures kind tr := by
  have hrun := exec_producer_start rfl h
  have hleft := Producer.left_append_errors hrun
  rwa [(Producer.reports_eq_failures hrun).2, Producer.failures,
    filterMap_filter_ofProducer (fun _ => rfl) (fun _ _ => rfl),
    filterMap_filter_ofProducer (fun _ => rfl) (fun _ _ => rfl),
    filterMap_filter_ofProducer (fun _ => rfl) (fun _ _ => rfl), left_eq_recorded h] at hleft

/-- **The ledger holds what was recorded**, and the drain has seen as many. -/
theorem ledger_of_exec (h : exec step as (start capacity kind) = some (st, tr)) :
    st.ledger = Ledger.ofList (tr.filterMap recorded?)
      ∧ st.drain.observed? = some (tr.filterMap recorded?).length := by
  refine exec_induction (motive := fun _ st tr => st.ledger = Ledger.ofList (tr.filterMap recorded?)
    ∧ st.drain.observed? = some (tr.filterMap recorded?).length) ⟨rfl, rfl⟩
    (fun as st tr a st' os _ ih ha => ?_) h
  have hmove := Move.of_step ha
  rw [List.filterMap_append]
  constructor
  · rw [hmove.ledger_eq, ih.1, Ledger.ofList, Ledger.ofList, List.foldl_append]
  · rw [hmove.observed_eq, ih.2, Option.map_some, List.length_append]

/-- A publisher whose drain has ended has no report on its way. -/
theorem ended_of_exec (h : exec step as (start capacity kind) = some (st, tr)) : st.Ended :=
  exec_invariant (P := State.Ended) (fun _ => Drain.noConfusion)
    (fun _ _ _ _ hend ha => (Move.of_step ha).ended hend) h

/-- **Calls to close**: at most one of them returns as holder of the tasks, with what the drain has
seen at its end, and all others return none. -/
theorem returned_of_exec (h : exec step as (start capacity kind) = some (st, tr)) :
    (∀ n ∈ tr.filterMap returned?, st.drain = .finished n)
      ∧ (tr.filterMap returned?).length + st.hasHolder.toNat + st.hasTasks.toNat ≤ 1
      ∧ ∀ n, .closeReturned false n ∈ tr → n = 0 := by
  refine exec_induction (motive := fun _ st tr =>
    (∀ n ∈ tr.filterMap returned?, st.drain = .finished n)
      ∧ (tr.filterMap returned?).length + st.hasHolder.toNat + st.hasTasks.toNat ≤ 1
      ∧ ∀ n, .closeReturned false n ∈ tr → n = 0)
    ⟨fun _ hn => absurd hn List.not_mem_nil, Nat.le_refl 1, fun _ hn => absurd hn List.not_mem_nil⟩
    (fun as st tr a st' os _ ih ha => ?_) h
  obtain ⟨hseen, honce, hnone⟩ := ih
  have hmove := Move.of_step ha
  refine ⟨fun n hn => ?_, ?_, fun n hn => ?_⟩
  · rw [List.filterMap_append, List.mem_append] at hn
    exact hn.elim (fun hn => hmove.finished (hseen n hn)) hmove.returned
  · have hlen := hmove.length_returned
    rw [List.filterMap_append, List.length_append]
    omega
  · exact (List.mem_append.mp hn).elim (hnone n) hmove.closeReturned_false

end Publisher

end RecordRelay
