import RecordRelay.Proofs.Delivery.Publisher

/-!
# Calls

Every submission is a **call** that somebody waits for, and this module keeps account of them. A
call that was started is open, or it ended by telling its caller, by being refused or by being
dropped: `started_perm` says that these are all the calls there were, each of them once. A
submission that entered the queue has told its caller or is about to, and nobody else was told so:
that is `entered_perm`. Between them they leave no room for a message that entered although its call
was refused, or for a call that was told of a message that did not enter.

The account is kept by counting. If no two calls submit the same, which fresh identifiers see to,
to count is to tell them apart.
-/

namespace RecordRelay

namespace Producer

open Occurrence

variable {st st' : State} {a : Action} {os : List Occurrence}

/-- Who leaves a line is no longer in it, and all others are. -/
theorem count_erase_add {s : Submission} {l : List Submission} (hs : s ∈ l) (x : Submission) :
    (l.erase s).count x + [s].count x = l.count x := by
  rw [← List.count_append]
  exact (List.perm_append_comm.trans (List.perm_cons_erase hs).symm).count_eq x

/-- **The account of one move**: the calls that are open afterwards, with those that ended, are the
calls that were open before, with the one that started. -/
theorem Move.count_pending (h : Move st a st' os) (x : Submission) :
    st'.pending.count x + (os.filterMap ended?).count x
      = st.pending.count x + ([a].filterMap Action.start?).count x := by
  -- whoever leaves one line joins another or has ended, and nobody else moves
  cases h with
  | refuse s => rfl
  | check s =>
    simp only [State.pending, List.count_append, List.filterMap_cons, List.filterMap_nil,
      List.count_nil, Action.start?]
    omega
  | reserveSlot s mem | reserveWait s mem | resumeSlot s mem | send s mem =>
    have hcount := count_erase_add mem x
    simp only [State.pending, List.count_append, List.filterMap_cons, List.filterMap_nil, ended?,
      outcome?, Option.map_none, List.count_nil, Action.start?]
    omega
  | reserveClosed s mem | resumeClosed s mem | resumeTurnedAway s _ mem | confirm s mem
  | timeOutWaiting s mem | abandonChecked s mem | abandonWaiting s _ mem =>
    have hcount := count_erase_add mem x
    simp only [State.pending, List.count_append, List.filterMap_cons, List.filterMap_nil, ended?,
      outcome?, Option.map_some, List.count_nil, Action.start?]
    omega
  | timeOutOffered s _ mem | abandonOffered s _ _ mem =>
    have hcount := count_erase_add mem x
    rw [State.offer_pending]
    simp only [State.pending, List.count_append, List.filterMap_cons, List.filterMap_nil, ended?,
      outcome?, Option.map_some, List.count_nil, Action.start?]
    omega
  | take =>
    rw [State.offer_pending]
    rfl
  | dropReceiver =>
    rw [filterMap_map_lost (fun _ => rfl)]
    rfl
  | _ => rfl

/-- The account of those who entered the queue: they tell their callers, and nobody else does. -/
theorem Move.count_sent (h : Move st a st' os) (x : Submission) :
    st'.sent.count x + (os.filterMap accepted?).count x
      = st.sent.count x + (os.filterMap entered?).count x := by
  cases h with
  | send s => exact congrArg (· + 0) List.count_append
  | confirm s mem => exact count_erase_add mem x
  | timeOutOffered | abandonOffered | take =>
    rw [State.offer_sent]
    rfl
  | dropReceiver => rw [filterMap_map_lost (fun _ => rfl), filterMap_map_lost (fun _ => rfl)]
  | _ => rfl

variable {capacity : Capacity} {kind : String} {as : List Action} {tr : List Occurrence}

/-- **Every call that was started is open or has ended**, in one way and once. -/
theorem started_perm (h : exec step as (start capacity kind) = some (st, tr)) :
    (st.pending ++ tr.filterMap ended?).Perm (as.filterMap Action.start?) := by
  refine exec_induction (motive := fun as st tr =>
    (st.pending ++ tr.filterMap ended?).Perm (as.filterMap Action.start?)) (.refl _)
    (fun as st tr a st' os _ ih ha => ?_) h
  rw [List.perm_iff_count] at ih ⊢
  intro x
  have hmove := (Move.of_step ha).count_pending x
  have hsum := ih x
  rw [List.filterMap_append, List.filterMap_append, List.count_append, List.count_append,
    List.count_append, ← hsum, List.count_append]
  omega

/-- **Those who entered the queue have told their callers or are about to**, and nobody else has. -/
theorem entered_perm (h : exec step as (start capacity kind) = some (st, tr)) :
    (st.sent ++ tr.filterMap accepted?).Perm (tr.filterMap entered?) := by
  refine exec_induction (motive := fun _ st tr =>
    (st.sent ++ tr.filterMap accepted?).Perm (tr.filterMap entered?)) (.refl _)
    (fun as st tr a st' os _ ih ha => ?_) h
  rw [List.perm_iff_count] at ih ⊢
  intro x
  have hmove := (Move.of_step ha).count_sent x
  have hsum := ih x
  rw [List.count_append] at hsum
  rw [List.filterMap_append, List.filterMap_append, List.count_append, List.count_append,
    List.count_append, ← hsum]
  omega

end Producer

namespace Publisher

open Occurrence

variable {capacity : Capacity} {kind : String} {st₀ st : State} {as : List Action}
  {tr : List Occurrence}

/-- Every call that was started at a publisher is open or has ended. -/
theorem started_perm (h₀ : st₀.producer = Producer.start capacity kind)
    (h : exec step as st₀ = some (st, tr)) :
    (st.producer.pending ++ tr.filterMap ended?).Perm (started as) := by
  have hrun := Producer.started_perm (exec_producer_start h₀ h)
  rwa [filterMap_filter_ofProducer (fun _ => rfl) (fun _ _ => rfl), started_eq] at hrun

/-- Those who entered the queue of a publisher have told their callers or are about to. -/
theorem entered_perm (h₀ : st₀.producer = Producer.start capacity kind)
    (h : exec step as st₀ = some (st, tr)) :
    (st.producer.sent ++ tr.filterMap accepted?).Perm (tr.filterMap entered?) := by
  have hrun := Producer.entered_perm (exec_producer_start h₀ h)
  rwa [filterMap_filter_ofProducer (fun _ => rfl) (fun _ _ => rfl),
    filterMap_filter_ofProducer (fun _ => rfl) (fun _ _ => rfl)] at hrun

/-- **Where no two calls submit the same, a submission enters, or is refused, or is dropped**: one
of these, and once. -/
theorem count_entered_le_one (h₀ : st₀.producer = Producer.start capacity kind)
    (h : exec step as st₀ = some (st, tr)) (hfresh : (started as).Nodup) (x : Submission) :
    (tr.filterMap entered?).count x + (tr.filterMap rejected?).count x
      + (tr.filterMap abandoned?).count x ≤ 1 := by
  have hstarted := (started_perm h₀ h).count_eq x
  have hentered := (entered_perm h₀ h).count_eq x
  have hended := count_ended x tr
  have hone := List.nodup_iff_count.mp hfresh x
  simp only [Producer.State.pending, List.count_append] at hstarted hentered
  omega

/-- Where no two calls submit the same, a call that has ended **is not open**. -/
theorem not_mem_pending_of_ended (h₀ : st₀.producer = Producer.start capacity kind)
    (h : exec step as st₀ = some (st, tr)) (hfresh : (started as).Nodup) {s : Submission}
    (hs : s ∈ tr.filterMap ended?) : s ∉ st.producer.pending := by
  have hnodup := (started_perm h₀ h).nodup_iff.mpr hfresh
  obtain ⟨-, -, hne⟩ := List.nodup_append.mp hnodup
  exact fun hmem => hne s hmem s hs rfl

end Publisher

end RecordRelay
