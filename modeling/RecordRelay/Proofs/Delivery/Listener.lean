import RecordRelay.Proofs.Delivery.Shutdown

/-!
# Whoever listens to the reports

A producer that stands alone hands the far end of its error channel to its owner, who may take the
reports off it at any time, or never, or give the channel up. The dispatcher depends on that owner in
one way only: it **waits where the channel is full** (`waits_iff`), and nowhere else.

While somebody listens no report is lost. Those that were received, those in the channel and the one
that is about to be made are the failures of the appends, in the order of the queue, and behind them
the failure to close the sink, if that failed. Once the channel is given up the dispatcher never
waits for it again, whatever it was doing at that moment; its reports go nowhere, but the messages
in the queue reach the sink as before, in their order, and the sink is closed once.
-/

namespace RecordRelay

/-- The report that was received by whoever listens. -/
def Occurrence.received? : Occurrence → Option Undelivered
  | received f => some f
  | _ => none

namespace Producer

open Occurrence

variable {st st' : State} {a : Action} {os : List Occurrence}

/-! ## Listening -/

/-- Nobody **begins to listen** later on; and while somebody listens, the reports that leave the
channel are those that are received. -/
theorem Move.listening (h : Move st a st' os) (hr : st'.hasReceiver) :
    st.hasReceiver ∧ os.filterMap left? = os.filterMap received? := by
  cases h with
  | timeOutOffered | abandonOffered | take =>
    rw [State.offer_hasReceiver] at hr
    exact ⟨hr, rfl⟩
  | lose f last _ deaf =>
    rw [show st.hasReceiver = true from hr] at deaf
    cases deaf
  | dropReceiver => cases hr
  | _ => exact ⟨hr, rfl⟩

/-- The channel is given up by whoever gives it up, and by nobody else. -/
theorem Move.deaf_iff (h : Move st a st' os) :
    st'.hasReceiver = false ↔ st.hasReceiver = false ∨ .dropReceiver ∈ [a] := by
  cases h <;> simp

/-- A dispatcher that waits **goes on when the channel is given up**. -/
theorem State.Waits.goesOn (hs : Sound st) (hw : st.Waits) :
    ∃ st' os, step .dropReceiver st = some (st', os) ∧ st'.phase = st.phase
      ∧ (step .report st').isSome := by
  obtain ⟨hunsaid, hr, -⟩ := (waits_iff hs).mp hw
  have hbusy : ∃ f last, st.phase = .reporting f last := by
    cases hp : st.phase with
    | reporting f last => exact ⟨f, last, rfl⟩
    | _ => exact absurd (by rw [hp]; rfl) hunsaid
  obtain ⟨f, last, hp⟩ := hbusy
  refine ⟨_, _, step_eq_some_iff.mpr (.dropReceiver hr), rfl, Option.isSome_iff_exists.mpr ?_⟩
  exact ⟨_, step_eq_some_iff.mpr (.lose f last hp rfl)⟩

/-! ## The dispatcher by itself -/

/-- All of these work towards the end, and so do the steps of the calls that are open. -/
theorem works_of_mem_dispatch {result : Except SinkFault Unit}
    (ha : a ∈ dispatch result ++ st.goingOn) : a.works := by
  simp only [dispatch, State.goingOn, List.mem_append, List.mem_cons, List.not_mem_nil, or_false,
    List.mem_map] at ha
  obtain hmem | ((⟨s, -, rfl⟩ | ⟨s, -, rfl⟩) | ⟨s, -, rfl⟩) | ⟨s, -, rfl⟩ := ha
  · obtain rfl | rfl | rfl | rfl | rfl | rfl := hmem <;> rfl
  all_goals rfl

/-- **Only so many steps can follow** while a producer is closing. -/
theorem countP_works_le (hc : st.Closing) {bs : List Action} {tr : List Occurrence}
    (h : exec step bs st = some (st', tr)) : bs.countP Action.works + st'.work ≤ st.work :=
  exec_countP_add_le (P := State.Closing) (p := Action.works) (μ := State.work)
    (fun _ _ _ _ hs ha => (Move.of_step ha).closing hs)
    (fun _ _ _ _ _ ha hw => (Move.of_step ha).work_lt hw)
    (fun _ _ _ _ hs ha => (Move.of_step ha).work_le hs) hc h

/-- **Where nothing can go on, a producer that is closing has stopped**, unless its dispatcher waits
for the channel. -/
theorem stopped_of_stuck (hs : Sound st) (hw : ¬ st.Waits) (hc : st.Closing)
    {result : Except SinkFault Unit}
    (hstuck : ∀ a ∈ dispatch result ++ st.goingOn, step a st = none) :
    st.phase = .stopped ∧ st.pending = [] := by
  have hcalls : ∀ a ∈ st.goingOn, step a st = none :=
    fun a ha => hstuck a (List.mem_append_right _ ha)
  obtain ⟨-, hstopped | hslots⟩ :=
    stopped_or_held hs hw hc fun a ha => hstuck a (List.mem_append_left _ ha)
  · exact ⟨hstopped, pending_eq_nil_of_stopped hs hstopped hcalls⟩
  · exact absurd (List.append_eq_nil_iff.mpr (holding_eq_nil_of_stuck hcalls)) hslots

/-! ## Along a run -/

variable {capacity : Capacity} {kind : String} {as : List Action} {tr : List Occurrence}

/-- While somebody listens, the reports that left the channel **were received**. -/
theorem listening_of_exec (h : exec step as (start capacity kind) = some (st, tr))
    (hr : st.hasReceiver) : tr.filterMap left? = tr.filterMap received? := by
  refine exec_induction (motive := fun _ st tr =>
    st.hasReceiver → tr.filterMap left? = tr.filterMap received?) (fun _ => rfl)
    (fun as st tr a st' os _ ih ha hr' => ?_) h hr
  obtain ⟨hbefore, hnow⟩ := (Move.of_step ha).listening hr'
  rw [List.filterMap_append, List.filterMap_append, ih hbefore, hnow]

/-- Whether the channel was given up is seen from the state, from then on. -/
theorem deaf_iff (h : exec step as (start capacity kind) = some (st, tr)) :
    st.hasReceiver = false ↔ .dropReceiver ∈ as := by
  refine exec_induction (motive := fun as st _ => st.hasReceiver = false ↔ .dropReceiver ∈ as)
    (by simp [start]) (fun as st tr a st' os _ ih ha => ?_) h
  rw [(Move.of_step ha).deaf_iff, ih, List.mem_append]

/-- A producer and **whoever listens to it**, after these actions and this trace, whatever the sink
answers next. -/
structure Listened (capacity : Capacity) (kind : String) (as : List Action) (st : State)
    (tr : List Occurrence) : Prop where
  /-- While somebody listens, the reports received, those in the channel and the one that is about
  to be made are the failures of the appends so far and, behind them, that to close the sink. -/
  heard : st.hasReceiver → tr.filterMap received? ++ (st.errors ++ st.phase.unsaid)
    = (tr.filterMap answer?).filterMap appendReport?
      ++ (tr.filterMap closing?).filterMap (closeReport? kind)
  /-- The sink closes once, so that there is at most one failure to close. -/
  closing : (tr.filterMap closing?).length ≤ 1
  /-- The sink answers in the order in which messages entered the queue. -/
  inOrder : (tr.filterMap answer?).map Prod.fst <+: tr.filterMap entered?
  /-- The dispatcher waits for the channel exactly if somebody listens and the channel is full. -/
  waits : st.Waits ↔ st.phase.unsaid ≠ [] ∧ st.hasReceiver
    ∧ st.errors.length = max 1 capacity.errors
  /-- A dispatcher that waits goes on when the channel is given up. -/
  goesOn : st.Waits → ∃ st' os, step .dropReceiver st = some (st', os) ∧ st'.phase = st.phase
    ∧ (step .report st').isSome
  /-- Once the channel was given up the dispatcher does not wait for it, now or later. -/
  deaf : .dropReceiver ∈ as → ∀ bs st' tr', exec step bs st = some (st', tr') → ¬ st'.Waits
  /-- The messages handed to the sink, and behind them those in the queue, are those that entered
  it. -/
  handed : tr.filterMap handed? ++ st.items = tr.filterMap entered?
  /-- The sink is asked one thing at a time, and to close at most once, behind all messages. -/
  sink : tr.filterMap sinkEvent? ++ st.phase.owed
    = (tr.filterMap handed?).flatMap exchange ++ if st.phase.isOver then farewell else []
  /-- Once the channel was given up the dispatcher has a step to take wherever the queue or its
  hands hold something, -/
  progress : .dropReceiver ∈ as → ∀ result, st.items ≠ []
    ∨ (st.phase ≠ .ready ∧ st.phase ≠ .stopped) → ∃ a ∈ dispatch result, (step a st).isSome
  /-- each step leaves it less to do, -/
  less : ∀ result, ∀ a ∈ dispatch result ++ st.goingOn, ∀ st' os, step a st = some (st', os) →
    st'.work < st.work
  /-- and once a close was requested, or nobody can submit any more, only so many steps follow, -/
  bounded : .requestClose ∈ as ∨ st.hasHandle = false → ∀ bs st' tr',
    exec step bs st = some (st', tr') → bs.countP Action.works + st'.work ≤ st.work
  /-- at the end of which the sink was handed all that entered the queue, answered for it, and was
  closed. -/
  ends : .dropReceiver ∈ as → .requestClose ∈ as ∨ st.hasHandle = false → ∀ result,
    (∀ a ∈ dispatch result ++ st.goingOn, step a st = none) →
    st.phase = .stopped ∧ st.pending = []
      ∧ tr.filterMap sinkEvent? = (tr.filterMap entered?).flatMap exchange ++ farewell

/-- **The talk on the error channel.** Whatever the sink answers, however large the channel is, and
whenever reports are received or the channel is given up, if it ever is: no report is lost while
somebody listens, the dispatcher waits for the channel only where that is full, and once nobody
listens it goes on to the end by itself. -/
theorem reports_heard_or_void (h : exec step as (start capacity kind) = some (st, tr)) :
    Listened capacity kind as st tr := by
  have hsound := Sound.of_exec h
  have hcapacity := (capacity_kind_of_exec h).1
  have hclosing : .requestClose ∈ as ∨ st.hasHandle = false → st.Closing :=
    Or.imp_left (closeRequested_iff h).mpr
  have hqueue := handed_append_items h
  -- what has been given up stays so in every continuation, and there nobody waits
  have hdeaf : .dropReceiver ∈ as → ∀ bs st' tr', exec step bs st = some (st', tr') →
      ¬ st'.Waits := by
    intro hdrop bs st' tr' hbs hwaits
    have hall : exec step (as ++ bs) (start capacity kind) = some (st', tr ++ tr') :=
      exec_append_eq_some_iff.mpr ⟨st, tr, tr', h, hbs, rfl⟩
    have hgone := (deaf_iff hall).mpr (List.mem_append_left bs hdrop)
    rw [((waits_iff (Sound.of_exec hall)).mp hwaits).2.1] at hgone
    cases hgone
  constructor
  case heard =>
    intro hr
    rw [← listening_of_exec h hr, left_append_errors h]
    exact (reports_eq_failures h).2
  case closing =>
    rw [(reports_eq_failures h).1]
    exact Bool.toNat_le _
  case inOrder =>
    rw [← hqueue, ← answers_append_inHand h, List.append_assoc]
    exact List.prefix_append _ _
  case waits =>
    rw [waits_iff hsound, hcapacity]
    rfl
  case goesOn => exact State.Waits.goesOn hsound
  case deaf => exact hdeaf
  case handed => exact hqueue
  case sink => exact sinkEvents_append_owed h
  case progress =>
    intro hdrop result hbusy
    exact exists_dispatch_step hsound (hdeaf hdrop [] st [] rfl) result hbusy
  case less =>
    intro result a ha st' os hstep
    exact (Move.of_step hstep).work_lt (works_of_mem_dispatch ha)
  case bounded => exact fun hc bs st' tr' hbs => countP_works_le (hclosing hc) hbs
  case ends =>
    intro hdrop hc result hstuck
    obtain ⟨hstopped, hpending⟩ :=
      stopped_of_stuck hsound (hdeaf hdrop [] st [] rfl) (hclosing hc) hstuck
    exact ⟨hstopped, hpending, sinkEvents_of_stopped h hstopped⟩

/-- A run up to where the dispatcher **waits**: the report for `a` fills the channel, and that for
`b` has to wait, with `c` behind it in the queue. -/
def blocked : List Action :=
  [.submit (Publisher.letter "a"), .reserve (Publisher.letter "a"), .send (Publisher.letter "a"),
    .confirm (Publisher.letter "a"), .take, .answer (.error (.broker "away")), .report,
    .submit (Publisher.letter "b"), .reserve (Publisher.letter "b"), .send (Publisher.letter "b"),
    .confirm (Publisher.letter "b"), .take, .answer (.error (.broker "away")),
    .submit (Publisher.letter "c"), .reserve (Publisher.letter "c"), .send (Publisher.letter "c"),
    .confirm (Publisher.letter "c")]

/-- The rest of it once the channel **is given up**. -/
def unheard : List Action :=
  [.dropReceiver, .report, .take, .answer (.ok ()), .requestClose, .drain, .finish,
    .sinkClosed (.error (.unavailable "gone")), .report]

/-- In that run the dispatcher waits with two reports to make, and when the channel is given up it
goes on to the end. -/
theorem reports_heard_or_void_blocked :
    (∃ st tr, exec step blocked (start ⟨0, 0, 50⟩ "file") = some (st, tr) ∧ st.Waits
      ∧ tr.filterMap received? ++ (st.errors ++ st.phase.unsaid)
        = [reportOf (Publisher.letter "a") (.broker "away"),
          reportOf (Publisher.letter "b") (.broker "away")]
      ∧ ∃ st' os, step .dropReceiver st = some (st', os) ∧ (step .report st').isSome)
    ∧ ∃ st tr, exec step (blocked ++ unheard) (start ⟨0, 0, 50⟩ "file") = some (st, tr)
      ∧ tr.filterMap sinkEvent? = [Publisher.letter "a", Publisher.letter "b",
        Publisher.letter "c"].flatMap exchange ++ farewell := by
  have hwaits := reports_heard_or_void
    (rfl : exec step blocked (start ⟨0, 0, 50⟩ "file") = some (_, _))
  have hends := reports_heard_or_void
    (rfl : exec step (blocked ++ unheard) (start ⟨0, 0, 50⟩ "file") = some (_, _))
  have hfull := hwaits.waits.mpr ⟨List.cons_ne_nil _ _, rfl, rfl⟩
  obtain ⟨st', os, hdrop, -, hgoes⟩ := hwaits.goesOn hfull
  have hstuck : ∀ {st : State}, (dispatch (.ok ()) ++ st.goingOn).all
      (fun a => (step a st).isNone) → ∀ a ∈ dispatch (.ok ()) ++ st.goingOn, step a st = none :=
    fun h a ha => Option.isNone_iff_eq_none.mp (List.all_eq_true.mp h a ha)
  refine ⟨⟨_, _, rfl, hfull, hwaits.heard rfl, st', os, hdrop, hgoes⟩, _, _, rfl, ?_⟩
  refine (hends.ends ?_ (.inl ?_) (.ok ()) (hstuck rfl)).2.2 <;> simp [blocked, unheard]

/-- A run on a sink that takes nothing and **fails to close**, with somebody who listens. -/
def closeFails : List Action :=
  [.requestClose, .drain, .finish, .sinkClosed (.error (.unavailable "gone")), .report, .receive]

/-- **Not all reports are for appends**: there a report was received though no append has failed. -/
theorem received_without_append :
    ∃ st tr, exec step closeFails (start ⟨1024, 256, 1000⟩ "scripted") = some (st, tr)
      ∧ st.hasReceiver ∧ tr.filterMap received? ++ (st.errors ++ st.phase.unsaid)
        ≠ (tr.filterMap answer?).filterMap appendReport? :=
  ⟨_, _, rfl, rfl, List.cons_ne_nil _ _⟩

end Producer

end RecordRelay
