import RecordRelay.Proofs.Delivery.Reports

/-!
# Shutting down

Dispatcher and drain wait for each other: the dispatcher for room in the error channel, the drain
for a report or for the dispatcher to stop. They never wait in a circle. Where anything is left to
do, in the queue, in the hands of the dispatcher or in the error channel, one of them can take a
step, or the sink has yet to answer (`exists_task_step`). Every such step makes the `work` that is
left smaller, and once a close was requested nothing makes it larger again, so that only so many
steps can follow. And where no step is left, everything has come to its end (`Final`).

The sink may answer as it likes. It is only assumed to answer, so the answer is a parameter of the
steps that the tasks can take.
-/

namespace RecordRelay

namespace Producer

open Occurrence

variable {st st' : State} {a : Action} {os : List Occurrence}

/-! ## Work -/

/-- Whether an action **works** towards the end. It does not if it starts a call or takes something
away from outside. -/
def Action.works : Action → Bool
  | submit _ | requestClose | dropHandle | dropReceiver => false
  | _ => true

/-- Giving slots away leaves less to do. -/
theorem State.work_offer_le (st : State) : st.offer.work ≤ st.work := by
  unfold offer
  split
  · exact Nat.le_refl _
  · simp only [work, List.length_append, List.length_take, List.length_drop]
    omega

/-- A report is less to do once it is in the channel. -/
theorem Phase.work_afterReport (f : Undelivered) (last : Bool) :
    (afterReport last).work + 1 < (reporting f last).work := by
  cases last <;> simp [afterReport, work]

/-- **Whoever works leaves less to do.** -/
theorem Move.work_lt (h : Move st a st' os) (hw : a.works) : st'.work < st.work := by
  cases h with
  | refuse | check | requestClose | dropHandle | dropReceiver => cases hw
  | reserveClosed s mem | reserveSlot s mem | reserveWait s mem | resumeClosed s mem
  | resumeSlot s mem | resumeTurnedAway s _ mem | send s mem | confirm s mem
  | timeOutWaiting s mem | abandonChecked s mem | abandonWaiting s _ mem =>
    have hlen := List.length_erase_add_one mem
    simp only [State.work, List.length_append, List.length_singleton]
    omega
  | timeOutOffered s _ mem | abandonOffered s _ _ mem =>
    refine Nat.lt_of_le_of_lt (State.work_offer_le _) ?_
    have hlen := List.length_erase_add_one mem
    simp only [State.work]
    omega
  | drain _ _ running => simp [State.work, running]
  | take s rest ready queue =>
    refine Nat.lt_of_le_of_lt (State.work_offer_le _) ?_
    simp only [State.work, ready, queue, Phase.work, List.length_cons]
    omega
  | answerOk s busy | answerError s _ busy | sinkClosedOk busy | sinkClosedError _ busy
  | finish busy => simp [State.work, busy, Phase.work]
  | report f last busy | lose f last busy =>
    have hwork := Phase.work_afterReport f last
    simp only [State.work, busy, List.length_append, List.length_singleton]
    omega
  | receive f rest channel =>
    simp only [State.work, channel, List.length_cons]
    omega

/-- A producer is **closing** once a close was requested or nobody can submit any more. -/
def State.Closing (st : State) : Prop := st.closeRequested ∨ st.hasHandle = false

/-- A producer that is closing goes on closing. -/
theorem Move.closing (h : Move st a st' os) (hc : st.Closing) : st'.Closing := by
  cases h with
  | timeOutOffered | abandonOffered | take =>
    rw [State.Closing, State.offer_closeRequested, State.offer_hasHandle]
    exact hc
  | requestClose => exact .inl rfl
  | dropHandle => exact .inr rfl
  | _ => exact hc

/-- **While a producer is closing nothing makes more work.** -/
theorem Move.work_le (h : Move st a st' os) (hc : st.Closing) : st'.work ≤ st.work := by
  by_cases hw : a.works
  · exact Nat.le_of_lt (h.work_lt hw)
  cases h with
  | check s handle running =>
    obtain hreq | hgone := hc
    · rw [running] at hreq
      cases hreq
    · rw [handle] at hgone
      cases hgone
  | dropReceiver =>
    simp only [State.work, List.length_nil]
    omega
  | refuse | requestClose | dropHandle => exact Nat.le_refl _
  | _ => exact absurd rfl hw

/-! ## Steps that can be taken -/

/-- The sink answers when it was asked. -/
theorem step_answer_isSome {s : Submission} (busy : st.phase = .appending s)
    (result : Except SinkFault Unit) : (step (.answer result) st).isSome := by
  rcases result with fault | ⟨⟩ <;> simp [step, busy]

/-- The sink closes when it was asked to. -/
theorem step_sinkClosed_isSome (busy : st.phase = .closing) (result : Except SinkFault Unit) :
    (step (.sinkClosed result) st).isSome := by
  rcases result with fault | ⟨⟩ <;> simp [step, busy]

/-- **The calls that are open** can each go on. -/
def State.goingOn (st : State) : List Action :=
  st.checked.map .reserve ++ (st.offered ++ st.waiting).map .resume ++ st.holding.map .send
    ++ st.sent.map .confirm

/-- Where the queue is closed **no call is stuck**: if none can go on, none is open. -/
theorem pending_eq_nil_of_stuck (hd : st.pending ≠ [] → st.draining)
    (hstuck : ∀ a ∈ st.goingOn, step a st = none) : st.pending = [] := by
  rw [List.eq_nil_iff_forall_not_mem]
  intro s hs
  have hclosed : st.draining := hd (List.ne_nil_of_mem hs)
  have hgo : ∃ a ∈ st.goingOn, step a st ≠ none := by
    simp only [State.pending, List.mem_append] at hs
    obtain ((hs | hs | hs) | hs) | hs := hs
    · exact ⟨.reserve s, by simp [State.goingOn, hs], by simp [step, hs, hclosed]⟩
    · exact ⟨.resume s, by simp [State.goingOn, hs], by simp [step, hs, hclosed]⟩
    · refine ⟨.resume s, by simp [State.goingOn, hs], ?_⟩
      by_cases ho : s ∈ st.offered <;> simp [step, hs, ho, hclosed]
    · exact ⟨.send s, by simp [State.goingOn, hs], by simp [step, hs]⟩
    · exact ⟨.confirm s, by simp [State.goingOn, hs], by simp [step, hs]⟩
  obtain ⟨a, ha, hne⟩ := hgo
  exact hne (hstuck a ha)

/-- No call that holds a slot, or was given one, is stuck. -/
theorem holding_eq_nil_of_stuck (hstuck : ∀ a ∈ st.goingOn, step a st = none) :
    st.offered = [] ∧ st.holding = [] := by
  constructor <;> rw [List.eq_nil_iff_forall_not_mem] <;> intro s hs
  · have hnone := hstuck (.resume s) (by simp [State.goingOn, hs])
    cases hd : st.draining <;> simp [step, hs, hd] at hnone
  · have hnone := hstuck (.send s) (by simp [State.goingOn, hs])
    simp [step, hs] at hnone

/-- A producer that has stopped has no call open, if none can go on. -/
theorem pending_eq_nil_of_stopped (hs : Sound st) (hstopped : st.phase = .stopped)
    (hstuck : ∀ a ∈ st.goingOn, step a st = none) : st.pending = [] := by
  refine pending_eq_nil_of_stuck (fun hne => ?_) hstuck
  obtain ⟨s, hmem⟩ := List.exists_mem_of_ne_nil _ hne
  exact (hs.sealed (by rw [hstopped]; rfl)).draining hs.idle hmem

/-! ## The dispatcher -/

/-- Whether the dispatcher **waits for the error channel**: it has a report to make and cannot. -/
def State.Waits (st : State) : Prop :=
  st.phase.unsaid ≠ [] ∧ step .report st = none

/-- **The dispatcher waits where the channel is full**, and only there. -/
theorem waits_iff (hs : Sound st) :
    st.Waits ↔ st.phase.unsaid ≠ [] ∧ st.hasReceiver ∧ st.errors.length = st.capacity.reports := by
  have hle := hs.errors_le
  refine and_congr_right fun hunsaid => ?_
  cases hp : st.phase with
  | reporting f last =>
    simp only [step, hp]
    cases hr : st.hasReceiver with
    | false => simp
    | true => simp; omega
  | _ => exact absurd (by rw [hp]; rfl) hunsaid

/-- The **steps of the dispatcher**, and of the sink if this is what it answers. -/
def dispatch (result : Except SinkFault Unit) : List Action :=
  [.drain, .take, .answer result, .report, .finish, .sinkClosed result]

/-- A dispatcher that need not wait for the channel **has a step to take** wherever the queue or its
hands hold something. -/
theorem exists_dispatch_step (hs : Sound st) (hw : ¬ st.Waits) (result : Except SinkFault Unit)
    (hbusy : st.items ≠ [] ∨ (st.phase ≠ .ready ∧ st.phase ≠ .stopped)) :
    ∃ a ∈ dispatch result, (step a st).isSome := by
  cases hp : st.phase with
  | ready =>
    have hitems : st.items ≠ [] := hbusy.resolve_right fun h => h.1 hp
    obtain ⟨s, rest, hcons⟩ := List.exists_cons_of_ne_nil hitems
    exact ⟨.take, by simp [dispatch], by simp [step, hp, hcons]⟩
  | appending s => exact ⟨.answer result, by simp [dispatch], step_answer_isSome hp result⟩
  | reporting f last =>
    refine ⟨.report, by simp [dispatch], Option.isSome_iff_ne_none.mpr fun hnone => hw ⟨?_, hnone⟩⟩
    rw [hp]
    exact List.cons_ne_nil _ _
  | closing => exact ⟨.sinkClosed result, by simp [dispatch], step_sinkClosed_isSome hp result⟩
  | stopped =>
    have hitems := (hs.sealed (by rw [hp]; rfl)).items_eq
    exact absurd hp (hbusy.resolve_left (not_not_intro hitems)).2

/-- **What the dispatcher can wait for** once the producer is closing, apart from the error channel:
where it has no step to take the queue is empty, and either it has stopped or it waits for a call
that has a slot and has yet to enter the queue or to give it back. -/
theorem stopped_or_held (hs : Sound st) (hw : ¬ st.Waits) (hc : st.Closing)
    {result : Except SinkFault Unit} (hstuck : ∀ a ∈ dispatch result, step a st = none) :
    st.items = [] ∧ (st.phase = .stopped ∨ st.offered ++ st.holding ≠ []) := by
  have hidle : ¬ (st.items ≠ [] ∨ (st.phase ≠ .ready ∧ st.phase ≠ .stopped)) := by
    intro hbusy
    obtain ⟨a, ha, hsome⟩ := exists_dispatch_step hs hw result hbusy
    rw [hstuck a ha] at hsome
    cases hsome
  simp only [ne_eq, not_or, not_and_or, not_not] at hidle
  obtain ⟨hitems, hready | hstopped⟩ := hidle
  · -- a dispatcher between two messages could close the queue, or else the sink
    refine ⟨hitems, .inr fun hslots => ?_⟩
    obtain ⟨hoffered, hholding⟩ := List.append_eq_nil_iff.mp hslots
    have hdrain := hstuck .drain (by simp [dispatch])
    have hfinish := hstuck .finish (by simp [dispatch])
    obtain hreq | hgone := hc
    · cases hd : st.draining with
      | false => simp [step, hready, hreq, hd] at hdrain
      | true => simp [step, hready, hitems, hd, hoffered, hholding] at hfinish
    · simp [step, hready, hitems, hgone] at hfinish
  · exact ⟨hitems, .inl hstopped⟩

end Producer

namespace Publisher

open Occurrence

variable {st st' : State} {a : Action} {os : List Occurrence}

/-- Whether an action **works** towards the end. -/
def Action.works : Action → Bool
  | producer a => a.works
  | close => false
  | _ => true

/-- **Whoever works leaves less to do.** -/
theorem Move.work_lt (h : Move st a st' os) (hw : a.works) : st'.work < st.work := by
  cases h with
  | producer free move =>
    have hlt := move.work_lt hw
    simp only [State.work]
    omega
  | record n f rest running channel _ =>
    simp only [State.work, Producer.State.work, running, channel, List.length_cons]
    omega
  | endDrain n running => simp [State.work, running]
  | closeFirst | closeAgain => cases hw
  | closeReturns n _ holder | abandonClose holder => simp [State.work, holder]

/-- **While the producer is closing nothing makes more work.** Another call to close takes hold of
the tasks instead of those who have not yet called, and so it makes none either. -/
theorem Move.work_le (h : Move st a st' os) (hc : st.producer.Closing) : st'.work ≤ st.work := by
  by_cases hw : a.works
  · exact Nat.le_of_lt (h.work_lt hw)
  cases h with
  | producer free move =>
    have hle := move.work_le hc
    simp only [State.work]
    omega
  | closeFirst _ tasks =>
    simp only [State.work, Producer.State.work, tasks]
    cases st.hasHolder <;> simp
  | closeAgain => exact Nat.le_refl _
  | _ => exact absurd rfl hw

/-- A publisher that is closing goes on closing. -/
theorem Move.closing (h : Move st a st' os) (hc : st.producer.Closing) : st'.producer.Closing := by
  cases h with
  | producer _ move => exact move.closing hc
  | closeFirst | closeAgain => exact .inl rfl
  | _ => exact hc

/-- **Only so many steps can follow**: along every run of a publisher that is closing, the steps
that work and the work that is left do not exceed the work there was. -/
theorem countP_works_add_work_le (hc : st.producer.Closing) {bs : List Action}
    {tr : List Occurrence} (h : exec step bs st = some (st', tr)) :
    bs.countP Action.works + st'.work ≤ st.work :=
  exec_countP_add_le (P := fun st => st.producer.Closing) (p := Action.works) (μ := State.work)
    (fun _ _ _ _ hc hb => (Move.of_step hb).closing hc)
    (fun _ _ _ _ _ hb hw => (Move.of_step hb).work_lt hw)
    (fun _ _ _ _ hc hb => (Move.of_step hb).work_le hc) hc h

/-! ## Progress -/

/-- The **steps of the background tasks**: of the dispatcher, of the sink if this is what it
answers, and of the drain. -/
def tasks (result : Except SinkFault Unit) : List Action :=
  [.producer .drain, .producer .take, .producer (.answer result), .producer .report,
    .producer .finish, .producer (.sinkClosed result), .record, .endDrain]

/-- A report in the error channel can be recorded. -/
theorem step_record_isSome (hat : st.Attended) (hend : st.Ended) (hne : st.producer.errors ≠ []) :
    (step .record st).isSome := by
  obtain ⟨f, rest, hcons⟩ := List.exists_cons_of_ne_nil hne
  cases hdrain : st.drain with
  | absent => exact absurd hdrain hat.2
  | running n => simp [step, hdrain, hcons, Producer.step, hat.1]
  | finished n => exact absurd (hend n hdrain).2 hne

/-- The steps of the dispatcher are among those of the tasks, and **happen in the publisher** as they
do in the producer. -/
theorem mem_tasks_of_mem_dispatch {result : Except SinkFault Unit} {b : Producer.Action}
    (hb : b ∈ Producer.dispatch result) (st : State) :
    .producer b ∈ tasks result
      ∧ step (.producer b) st
        = (Producer.step b st.producer).map fun (p, os) => ({ st with producer := p }, os) := by
  simp only [Producer.dispatch, List.mem_cons, List.not_mem_nil, or_false] at hb
  obtain rfl | rfl | rfl | rfl | rfl | rfl := hb <;> exact ⟨by simp [tasks], rfl⟩

/-- Where the error channel is empty the dispatcher **does not wait** for it. -/
theorem not_waits (hsound : Producer.Sound st.producer) (hempty : st.producer.errors = []) :
    ¬ st.producer.Waits := by
  intro hwaits
  have hfull := ((Producer.waits_iff hsound).mp hwaits).2.2
  have hroom : 0 < st.producer.capacity.reports :=
    Nat.lt_of_lt_of_le Nat.one_pos (Nat.le_max_left 1 _)
  rw [hempty, List.length_nil] at hfull
  exact absurd hfull (Nat.ne_of_lt hroom)

/-- **No circular wait**: where the queue, the hands of the dispatcher or the error channel hold
something, one of the tasks can take a step, whatever the sink answers. -/
theorem exists_task_step (hsound : Producer.Sound st.producer) (hat : st.Attended)
    (hend : st.Ended) (result : Except SinkFault Unit)
    (hbusy : st.producer.items ≠ []
      ∨ (st.producer.phase ≠ .ready ∧ st.producer.phase ≠ .stopped) ∨ st.producer.errors ≠ []) :
    ∃ a ∈ tasks result, (step a st).isSome := by
  by_cases hempty : st.producer.errors = []
  case neg => exact ⟨.record, by simp [tasks], step_record_isSome hat hend hempty⟩
  have hqueue := (or_assoc.mpr hbusy).resolve_right (not_not_intro hempty)
  obtain ⟨b, hb, hsome⟩ :=
    Producer.exists_dispatch_step hsound (not_waits hsound hempty) result hqueue
  obtain ⟨hmem, hstep⟩ := mem_tasks_of_mem_dispatch hb st
  exact ⟨.producer b, hmem, by rwa [hstep, Option.isSome_map]⟩

/-- **What the tasks can wait for** once the producer is closing: where none of them can take a
step, queue and error channel are empty, and either both have finished or the dispatcher waits for
a call that has a slot and has yet to enter the queue or to give it back. -/
theorem tasks_finished_or_waiting (hsound : Producer.Sound st.producer) (hat : st.Attended)
    (hend : st.Ended) (hc : st.producer.Closing) {result : Except SinkFault Unit}
    (hstuck : ∀ a ∈ tasks result, step a st = none) :
    st.producer.items = [] ∧ st.producer.errors = []
      ∧ (st.producer.phase = .stopped ∧ (∃ n, st.drain = .finished n)
        ∨ st.producer.offered ++ st.producer.holding ≠ []) := by
  have herrors : st.producer.errors = [] := by
    by_contra hne
    have hsome := step_record_isSome hat hend hne
    rw [hstuck .record (by simp [tasks])] at hsome
    cases hsome
  have hdispatch : ∀ b ∈ Producer.dispatch result, Producer.step b st.producer = none := by
    intro b hb
    obtain ⟨hmem, hstep⟩ := mem_tasks_of_mem_dispatch hb st
    rw [hstuck _ hmem] at hstep
    exact Option.map_eq_none_iff.mp hstep.symm
  obtain ⟨hitems, hdone⟩ :=
    Producer.stopped_or_held hsound (not_waits hsound herrors) hc hdispatch
  refine ⟨hitems, herrors, hdone.imp_left fun hstopped => ⟨hstopped, ?_⟩⟩
  have hendDrain := hstuck .endDrain (by simp [tasks])
  cases hdrain : st.drain with
  | absent => exact absurd hdrain hat.2
  | running n => simp [step, hdrain, hstopped, herrors] at hendDrain
  | finished n => exact ⟨n, rfl⟩

/-- The steps that can be taken **without anybody from outside**: those of the tasks, those of the
calls that are open, and the return of the call to close that holds the tasks. -/
def State.goingOn (st : State) (result : Except SinkFault Unit) : List Action :=
  tasks result ++ st.producer.goingOn.map .producer ++ [.closeReturns]

/-- All of these work towards the end. -/
theorem works_of_mem_goingOn {result : Except SinkFault Unit} (ha : a ∈ st.goingOn result) :
    a.works := by
  simp only [State.goingOn, tasks, Producer.State.goingOn, List.mem_append, List.mem_cons,
    List.not_mem_nil, or_false, List.mem_map] at ha
  obtain (hmem | ⟨b, hb, rfl⟩) | rfl := ha
  · obtain rfl | rfl | rfl | rfl | rfl | rfl | rfl | rfl := hmem <;> rfl
  · obtain ((⟨s, -, rfl⟩ | ⟨s, -, rfl⟩) | ⟨s, -, rfl⟩) | ⟨s, -, rfl⟩ := hb <;> rfl
  · rfl

/-- **Where nothing can go on, a publisher that is closing has stopped**: its dispatcher and its
drain have finished, no call is open, and nobody waits for the tasks. -/
theorem stopped_of_stuck (hsound : Producer.Sound st.producer) (hat : st.Attended)
    (hend : st.Ended) (hc : st.producer.Closing) {result : Except SinkFault Unit}
    (hstuck : ∀ a ∈ st.goingOn result, step a st = none) :
    st.producer.phase = .stopped ∧ st.producer.errors = [] ∧ st.producer.pending = []
      ∧ (∃ n, st.drain = .finished n) ∧ st.hasHolder = false := by
  have hcalls : ∀ a ∈ st.producer.goingOn, Producer.step a st.producer = none := by
    intro a ha
    have hnone := hstuck (.producer a) (by simp [State.goingOn, ha])
    have hfree : st.free a := by
      simp only [Producer.State.goingOn, List.mem_append, List.mem_map] at ha
      obtain ((⟨s, -, rfl⟩ | ⟨s, -, rfl⟩) | ⟨s, -, rfl⟩) | ⟨s, -, rfl⟩ := ha <;> rfl
    simpa [step, hfree] using hnone
  have hslots : st.producer.offered ++ st.producer.holding = [] :=
    List.append_eq_nil_iff.mpr (Producer.holding_eq_nil_of_stuck hcalls)
  have htasks : ∀ a ∈ tasks result, step a st = none :=
    fun a ha => hstuck a (by simp [State.goingOn, ha])
  obtain ⟨-, herrors, hdone⟩ := tasks_finished_or_waiting hsound hat hend hc htasks
  obtain ⟨hstopped, n, hn⟩ := hdone.resolve_right (not_not_intro hslots)
  have hpending := Producer.pending_eq_nil_of_stopped hsound hstopped hcalls
  refine ⟨hstopped, herrors, hpending, ⟨n, hn⟩, ?_⟩
  have hreturns := hstuck .closeReturns (by simp [State.goingOn])
  simpa [step, hn, hstopped] using hreturns

/-! ## The call to close that holds the tasks -/

/-- Whoever has the tasks keeps them until the call **returns or is dropped**. -/
theorem Move.holder (h : Move st a st' os) :
    st'.hasHolder ∨ os.filterMap returned? ≠ [] ∨ a = .abandonClose
      ∨ st'.hasTasks = st.hasTasks ∧ st'.hasHolder = st.hasHolder := by
  cases h with
  | closeFirst => exact .inl rfl
  | closeReturns n => exact .inr (.inl (List.cons_ne_nil _ _))
  | abandonClose => exact .inr (.inr (.inl rfl))
  | _ => exact .inr (.inr (.inr ⟨rfl, rfl⟩))

/-- The tasks are gone after the first call to close. -/
theorem Move.hasTasks (h : Move st a st' os) (ht : st'.hasTasks) :
    st.hasTasks ∧ a ≠ .close := by
  cases h with
  | closeFirst => cases ht
  | closeAgain _ tasks =>
    rw [tasks] at ht
    cases ht
  | _ => exact ⟨ht, nofun⟩

variable {capacity : Capacity} {kind : String} {as : List Action} {tr : List Occurrence}

/-- **The tasks are somewhere**: they wait to be taken, or somebody waits for them, or has
returned, or was dropped. -/
theorem tasks_of_exec (h : exec step as (start capacity kind) = some (st, tr)) :
    st.hasTasks ∨ st.hasHolder ∨ tr.filterMap returned? ≠ [] ∨ .abandonClose ∈ as := by
  refine exec_induction (motive := fun as st tr =>
    st.hasTasks ∨ st.hasHolder ∨ tr.filterMap returned? ≠ [] ∨ .abandonClose ∈ as)
    (.inl rfl) (fun as st tr a st' os _ ih ha => ?_) h
  rw [List.filterMap_append, List.mem_append, ne_eq, List.append_eq_nil_iff, not_and_or]
  obtain hholder | hret | rfl | ⟨hsame, hsame'⟩ := (Move.of_step ha).holder
  · exact .inr (.inl hholder)
  · exact .inr (.inr (.inl (.inr hret)))
  · exact .inr (.inr (.inr (.inr (List.mem_singleton_self _))))
  · rw [hsame, hsame']
    exact ih.imp_right (Or.imp_right (Or.imp .inl .inl))

/-- Tasks that wait to be taken have waited ever since: nobody called close. -/
theorem close_not_mem_of_hasTasks (h : exec step as (start capacity kind) = some (st, tr))
    (ht : st.hasTasks) : .close ∉ as := by
  refine exec_induction (motive := fun as st _ => st.hasTasks → .close ∉ as)
    (fun _ => List.not_mem_nil) (fun as st tr a st' os _ ih ha ht hmem => ?_) h ht
  obtain ⟨hbefore, hne⟩ := (Move.of_step ha).hasTasks ht
  exact (List.mem_append.mp hmem).elim (ih hbefore)
    fun hlast => hne (List.mem_singleton.mp hlast).symm

/-- **Once close was called** somebody waits for the tasks, or has returned, or was dropped. -/
theorem holder_of_exec (h : exec step as (start capacity kind) = some (st, tr))
    (hclose : .close ∈ as) :
    st.hasHolder ∨ tr.filterMap returned? ≠ [] ∨ .abandonClose ∈ as :=
  (tasks_of_exec h).resolve_left fun ht => close_not_mem_of_hasTasks h ht hclose

/-! ## The end -/

/-- **The end** of a publisher, after these actions and this trace. -/
structure Final (kind : String) (as : List Action) (st : State) (tr : List Occurrence) : Prop where
  /-- The queue is empty, -/
  items_eq : st.producer.items = []
  /-- and so is the error channel. -/
  errors_eq : st.producer.errors = []
  /-- No call is open. -/
  pending_eq : st.producer.pending = []
  /-- The dispatcher has finished, -/
  stopped : st.producer.phase = .stopped
  /-- and so has the drain, which has seen all failures of the run. -/
  finished : st.drain = .finished (Producer.failures kind tr).length
  /-- The sink was handed all that entered the queue, answered for it, and was closed. -/
  sink : tr.filterMap sinkEvent?
    = (tr.filterMap entered?).flatMap Producer.exchange ++ Producer.farewell
  /-- If close was called and no such call was dropped, then the one that held the tasks has
  returned, with the number of all failures. -/
  returned : .close ∈ as → .abandonClose ∉ as →
    tr.filterMap returned? = [(Producer.failures kind tr).length]

/-- **Where nothing can go on, a publisher that is closing is at its end.** -/
theorem final_of_stuck (h : exec step as (start capacity kind) = some (st, tr))
    (hc : st.producer.Closing) {result : Except SinkFault Unit}
    (hstuck : ∀ a ∈ st.goingOn result, step a st = none) : Final kind as st tr := by
  have hrun := exec_producer_start rfl h
  obtain ⟨hstopped, herrors, hpending, ⟨n, hn⟩, hholder⟩ :=
    stopped_of_stuck (Producer.Sound.of_exec hrun) (attended_of_exec h) (ended_of_exec h) hc hstuck
  have hseen : n = (Producer.failures kind tr).length := by
    have hall := recorded_append_errors h
    have hobserved := (ledger_of_exec h).2
    rw [herrors, hstopped] at hall
    rw [← hall, List.nil_append]
    rw [hn] at hobserved
    simpa [Producer.Phase.unsaid, Drain.observed?] using hobserved
  obtain ⟨hreturned, honce, -⟩ := returned_of_exec h
  constructor
  case items_eq => exact items_eq_nil_of_stopped rfl h hstopped
  case errors_eq => exact herrors
  case pending_eq => exact hpending
  case stopped => exact hstopped
  case finished => rw [hn, hseen]
  case sink => exact sinkEvents_of_stopped rfl h hstopped
  case returned =>
    intro hclose hkept
    have hne : tr.filterMap returned? ≠ [] := by
      obtain hheld | hne | hdropped := holder_of_exec h hclose
      · rw [hholder] at hheld
        cases hheld
      · exact hne
      · exact absurd hdropped hkept
    obtain ⟨m, rest, hcons⟩ := List.exists_cons_of_ne_nil hne
    have hm : st.drain = .finished m := hreturned m (by rw [hcons]; exact List.mem_cons_self)
    rw [hn] at hm
    cases hm
    have hrest : rest = [] := by
      rw [hcons, List.length_cons] at honce
      exact List.eq_nil_of_length_eq_zero (by omega)
    rw [hcons, hrest, hseen]

/-- **The background tasks cannot deadlock, and shutdown ends.** Whatever the sink answers, however
large queue and error channel are, and in whatever order calls, closes, dispatcher and drain take
their steps, so far and from now on:

* while queue, dispatcher or error channel hold something, one of the tasks can take a step;
* every step that works leaves less work to do;
* once a close was requested, or the last handle is gone, nothing adds to it, so that only so many
  such steps can follow, in every continuation;
* where then none of the tasks can take a step, queue and error channel are empty, and both tasks
  have finished unless a call has a slot that it has yet to use or give back;
* and where no step at all can be taken without anybody from outside, the publisher is at its
  end. -/
theorem shutdown_ends (h : exec step as (start capacity kind) = some (st, tr))
    (result : Except SinkFault Unit) :
    (st.producer.items ≠ []
        ∨ (st.producer.phase ≠ .ready ∧ st.producer.phase ≠ .stopped) ∨ st.producer.errors ≠ [] →
      ∃ a ∈ tasks result, (step a st).isSome)
    ∧ (∀ a st' os, a ∈ st.goingOn result → step a st = some (st', os) → st'.work < st.work)
    ∧ (CloseRequested as ∨ st.producer.hasHandle = false →
      (∀ bs st' tr', exec step bs st = some (st', tr') →
        bs.countP Action.works + st'.work ≤ st.work)
      ∧ ((∀ a ∈ tasks result, step a st = none) →
        st.producer.items = [] ∧ st.producer.errors = []
          ∧ (st.producer.phase = .stopped ∧ (∃ n, st.drain = .finished n)
            ∨ st.producer.offered ++ st.producer.holding ≠ []))
      ∧ ((∀ a ∈ st.goingOn result, step a st = none) → Final kind as st tr)) := by
  have hrun := exec_producer_start rfl h
  have hsound := Producer.Sound.of_exec hrun
  have hat := attended_of_exec h
  have hend := ended_of_exec h
  refine ⟨exists_task_step hsound hat hend result, fun a st' os ha hstep => ?_, fun hc => ?_⟩
  · exact (Move.of_step hstep).work_lt (works_of_mem_goingOn ha)
  · have hclosing : st.producer.Closing := hc.imp_left (Producer.closeRequested_iff hrun).mpr
    exact ⟨fun bs st' tr' hbs => countP_works_add_work_le hclosing hbs,
      tasks_finished_or_waiting hsound hat hend hclosing, final_of_stuck h hclosing⟩

/-- A run that closes a publisher of one slot, on a sink that fails, ends where nothing can go
on. -/
theorem shutdown_ends_crowded :
    ∃ st tr, exec step crowded (start ⟨0, 0, 50⟩ "file") = some (st, tr)
      ∧ CloseRequested crowded ∧ (∀ a ∈ st.goingOn (.ok ()), step a st = none)
      ∧ Final "file" crowded st tr := by
  have hclose : CloseRequested crowded := by simp [CloseRequested, crowded, Action.onProducer?]
  have hstuck : ∀ {st : State}, (st.goingOn (.ok ())).all (fun a => (step a st).isNone) →
      ∀ a ∈ st.goingOn (.ok ()), step a st = none :=
    fun h a ha => Option.isNone_iff_eq_none.mp (List.all_eq_true.mp h a ha)
  obtain ⟨-, -, hend⟩ := shutdown_ends
    (rfl : exec step crowded (start ⟨0, 0, 50⟩ "file") = some (_, _)) (.ok ())
  exact ⟨_, _, rfl, hclose, hstuck rfl, (hend (.inl hclose)).2.2 (hstuck rfl)⟩

end Publisher

end RecordRelay
