import RecordRelay.Proofs.Delivery.Publisher
import RecordRelay.Proofs.Delivery.Queue
import RecordRelay.Proofs.Delivery.Room

/-!
# How much a publisher holds

The queue of a publisher and its error channel have the sizes that the publisher was started with,
and this is what can be seen of them: **the numbers of messages that a run can leave in the queue
are those up to its size** (`exists_length_items_iff`), and so it is for the reports in the error
channel (`exists_length_errors_iff`). That they hold no more is a property of all runs. That they
hold as much takes a run for each number: calls that enter one after the other while the dispatcher
takes nothing, and calls whose messages the sink refuses while the drain records nothing.
-/

namespace RecordRelay

namespace Producer

variable {st : State} {capacity : Capacity} {kind : String}

/-- Where nobody waits there is nobody to give a slot to. -/
theorem State.offer_of_waiting (h : st.waiting = []) : st.offer = st := by
  unfold State.offer
  split
  · rfl
  · cases st
    cases h
    simp only [List.take_nil, List.drop_nil, List.append_nil]

/-- A producer that has just started, but for **what it holds**. -/
def stocked (capacity : Capacity) (kind : String) (items : List Submission)
    (errors : List Undelivered) : State :=
  { start capacity kind with items, errors }

/-- It has room while not all of its slots are taken. -/
theorem hasRoom_stocked {items : List Submission} (h : items.length < capacity.slots)
    (errors : List Undelivered) : (stocked capacity kind items errors).HasRoom :=
  ⟨rfl, rfl, rfl, h⟩

/-- What becomes of a message that **the sink refuses**. -/
def refusal (fault : SinkFault) : List Action := [.take, .answer (.error fault), .report]

/-- If the error channel has room, all that is left of such a message is a report. -/
theorem exec_refusal {errors : List Undelivered} (h : errors.length < capacity.reports)
    (s : Submission) (fault : SinkFault) :
    exec step (refusal fault) (stocked capacity kind [s] errors)
      = some (stocked capacity kind [] (errors ++ [reportOf s fault]),
        [.handed s, .appended s (.error fault)]) := by
  have htake : step .take (stocked capacity kind [s] errors)
      = some ({ stocked capacity kind [] errors with phase := .appending s }, [.handed s]) :=
    congrArg (fun st => some (st, [Occurrence.handed s])) (State.offer_of_waiting rfl)
  have hanswer : step (.answer (.error fault))
      { stocked capacity kind [] errors with phase := .appending s }
      = some ({ stocked capacity kind [] errors with phase := .reporting (reportOf s fault) false },
        [.appended s (.error fault)]) := rfl
  have hreport : step .report
      { stocked capacity kind [] errors with phase := .reporting (reportOf s fault) false }
      = some (stocked capacity kind [] (errors ++ [reportOf s fault]), []) :=
    if_pos h
  exact exec_cons_eq_some_iff.mpr ⟨_, _, _, htake, exec_cons_eq_some_iff.mpr ⟨_, _, _, hanswer,
    exec_singleton_eq_some_iff.mpr hreport, rfl⟩, rfl⟩

end Producer

namespace Publisher

variable {capacity : Capacity} {kind : String} {n : Nat}

/-- A publisher that has just started, but for **what its producer holds**. -/
def stocked (capacity : Capacity) (kind : String) (items : List Submission)
    (errors : List Undelivered) : State :=
  { start capacity kind with producer := Producer.stocked capacity kind items errors }

/-- A message enters while there is room. -/
theorem exec_entering {items : List Submission} (h : items.length < capacity.slots)
    (errors : List Undelivered) (s : Submission) :
    exec step ((Producer.entering s).map .producer) (stocked capacity kind items errors)
      = some (stocked capacity kind (items ++ [s]) errors, [.entered s, .accepted s]) :=
  exec_map_producer (fun _ => free_of_mem_entering)
    (Producer.exec_entering (Producer.hasRoom_stocked h errors) List.not_mem_nil)

/-- A message that the sink refuses **leaves a report** while there is room for it. -/
theorem exec_refused {errors : List Undelivered} (h : errors.length < capacity.reports)
    (s : Submission) (fault : SinkFault) :
    exec step ((Producer.entering s ++ Producer.refusal fault).map .producer)
        (stocked capacity kind [] errors)
      = some (stocked capacity kind [] (errors ++ [Producer.reportOf s fault]),
        [.entered s, .accepted s] ++ [.handed s, .appended s (.error fault)]) := by
  have hslot : ([] : List Submission).length < capacity.slots := Nat.le_max_left 1 capacity.queue
  rw [List.map_append, exec_append_eq_some_iff]
  refine ⟨_, _, _, exec_entering hslot errors s, ?_, rfl⟩
  exact exec_map_producer (by simp [Producer.refusal, State.free])
    (Producer.exec_refusal h s fault)

/-- A queue **can be filled**. -/
theorem exists_exec_items (s : Submission) (hn : n ≤ capacity.slots) :
    ∃ as tr, exec step as (start capacity kind)
      = some (stocked capacity kind (List.replicate n s) [], tr) := by
  induction n with
  | zero => exact ⟨[], [], rfl⟩
  | succ n ih =>
    obtain ⟨as, tr, h⟩ := ih (Nat.le_of_succ_le hn)
    have hroom : (List.replicate n s).length < capacity.slots := by
      rw [List.length_replicate]
      exact hn
    rw [List.replicate_succ']
    exact ⟨_, _, exec_append_eq_some_iff.mpr ⟨_, _, _, h, exec_entering hroom [] s, rfl⟩⟩

/-- So can an error channel. -/
theorem exists_exec_errors (s : Submission) (fault : SinkFault) (hn : n ≤ capacity.reports) :
    ∃ as tr, exec step as (start capacity kind)
      = some (stocked capacity kind [] (List.replicate n (Producer.reportOf s fault)), tr) := by
  induction n with
  | zero => exact ⟨[], [], rfl⟩
  | succ n ih =>
    obtain ⟨as, tr, h⟩ := ih (Nat.le_of_succ_le hn)
    have hroom : (List.replicate n (Producer.reportOf s fault)).length < capacity.reports := by
      rw [List.length_replicate]
      exact hn
    rw [List.replicate_succ']
    exact ⟨_, _, exec_append_eq_some_iff.mpr ⟨_, _, _, h, exec_refused hroom s fault, rfl⟩⟩

/-- **A queue holds any number of messages up to its slots**, and no more. -/
theorem exists_length_items_iff :
    (∃ as st tr, exec step as (start capacity kind) = some (st, tr)
      ∧ st.producer.items.length = n) ↔ n ≤ capacity.slots := by
  constructor
  · rintro ⟨as, st, tr, h, rfl⟩
    exact Producer.length_items_le (exec_producer_start rfl h)
  · intro hn
    obtain ⟨as, tr, h⟩ := exists_exec_items (letter "a") hn
    exact ⟨as, _, tr, h, List.length_replicate⟩

/-- **An error channel holds any number of reports up to its size**, and no more. -/
theorem exists_length_errors_iff :
    (∃ as st tr, exec step as (start capacity kind) = some (st, tr)
      ∧ st.producer.errors.length = n) ↔ n ≤ capacity.reports := by
  constructor
  · rintro ⟨as, st, tr, h, rfl⟩
    have hrun := exec_producer_start rfl h
    have hle := (Producer.Sound.of_exec hrun).errors_le
    rwa [(Producer.capacity_kind_of_exec hrun).1] at hle
  · intro hn
    obtain ⟨as, tr, h⟩ := exists_exec_errors (letter "a") (.broker "away") hn
    exact ⟨as, _, tr, h, List.length_replicate⟩

end Publisher

end RecordRelay
