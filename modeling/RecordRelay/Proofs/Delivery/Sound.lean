import RecordRelay.Proofs.Delivery.History
import RecordRelay.Proofs.Delivery.Move
import RecordRelay.Proofs.Run

/-!
# What holds of a producer at every moment

`Sound` collects what is true of a producer in every state it can get into. Its slots and the room
of its error channel are never overdrawn, and nobody waits for a slot that is free. The queue is
closed only on request, and who gave the handle away has no call open. Once the sink was asked to
close, the queue is empty and nobody can enter it any more; this last part is what makes the end of
the dispatcher the end of the queue.

Each part is kept by every move, and so `Sound.of_exec` says that the whole holds along every run.
-/

namespace RecordRelay.Producer

variable {st st' : State} {a : Action} {os : List Occurrence}

/-! ## Slots -/

/-- Giving slots away does not overdraw them. -/
theorem State.taken_offer_le (h : st.taken ≤ st.capacity.slots) :
    st.offer.taken ≤ st.capacity.slots := by
  unfold State.offer
  split
  · exact h
  · simp only [State.taken, List.length_append, List.length_take] at h ⊢
    omega

/-- Whoever still waits after slots were given away waits for one that is taken. -/
theorem State.taken_offer_eq (h : st.taken ≤ st.capacity.slots) (hd : st.draining = false)
    (hw : st.offer.waiting ≠ []) : st.offer.taken = st.capacity.slots := by
  unfold State.offer at hw ⊢
  rw [if_neg (by simp [hd])] at hw ⊢
  have hlen : st.capacity.slots - st.taken < st.waiting.length := by
    by_contra hle
    exact hw (List.drop_eq_nil_of_le (Nat.le_of_not_lt hle))
  simp only [State.taken, List.length_append, List.length_take] at h hlen ⊢
  omega

/-- A producer stays as large as it was made. -/
theorem Move.capacity_eq (h : Move st a st' os) : st'.capacity = st.capacity := by
  cases h <;> simp

/-- A producer keeps its kind of sink. -/
theorem Move.kind_eq (h : Move st a st' os) : st'.kind = st.kind := by
  cases h <;> simp

/-- **No move overdraws the slots.** -/
theorem Move.taken_le (h : Move st a st' os) (hle : st.taken ≤ st.capacity.slots) :
    st'.taken ≤ st.capacity.slots := by
  cases h with
  | reserveSlot s _ _ free =>
    simp only [State.taken, List.length_append, List.length_singleton] at free ⊢
    omega
  | resumeClosed s mem _ | resumeSlot s mem _ | send s mem =>
    have hlen := List.length_erase_add_one mem
    simp only [State.taken, List.length_append, List.length_singleton] at hle ⊢
    omega
  | timeOutOffered s _ mem | abandonOffered s _ _ mem =>
    refine State.taken_offer_le ?_
    have hlen := List.length_erase_add_one mem
    simp only [State.taken] at hle ⊢
    omega
  | take s rest _ queue =>
    refine State.taken_offer_le ?_
    simp only [State.taken, queue, List.length_cons] at hle ⊢
    omega
  | _ => exact hle

/-- While the queue is open, **nobody waits for a slot that is free**. -/
def State.Full (st : State) : Prop :=
  st.draining = false → st.waiting ≠ [] → st.taken = st.capacity.slots

/-- No move leaves a free slot to somebody who waits. -/
theorem Move.full (h : Move st a st' os) (hle : st.taken ≤ st.capacity.slots)
    (hfull : st.Full) : st'.Full := by
  cases h with
  | reserveSlot s _ running free =>
    intro _ hw
    exact absurd (hfull running hw) (Nat.ne_of_lt free)
  | reserveWait s _ _ full =>
    intro _ _
    exact Nat.le_antisymm hle full
  | resumeClosed s _ closed | resumeTurnedAway s _ _ closed =>
    intro hd
    rw [closed] at hd
    cases hd
  | resumeSlot s mem _ =>
    intro hd hw
    have htaken : st.taken = st.capacity.slots := hfull hd hw
    have hlen := List.length_erase_add_one mem
    simp only [State.taken, List.length_append, List.length_singleton] at htaken ⊢
    omega
  | send s mem =>
    intro hd hw
    have htaken : st.taken = st.capacity.slots := hfull hd hw
    have hlen := List.length_erase_add_one mem
    simp only [State.taken, List.length_append, List.length_singleton] at htaken ⊢
    omega
  | timeOutWaiting s mem | abandonWaiting s _ mem =>
    intro hd _
    exact hfull hd (List.ne_nil_of_mem mem)
  | timeOutOffered s _ mem | abandonOffered s _ _ mem =>
    intro hd hw
    rw [State.offer_draining] at hd
    rw [State.offer_capacity]
    refine State.taken_offer_eq ?_ hd hw
    have hlen := List.length_erase_add_one mem
    simp only [State.taken] at hle ⊢
    omega
  | take s rest _ queue =>
    intro hd hw
    rw [State.offer_draining] at hd
    rw [State.offer_capacity]
    refine State.taken_offer_eq ?_ hd hw
    simp only [State.taken, queue, List.length_cons] at hle ⊢
    omega
  | drain =>
    intro hd
    cases hd
  | _ => exact hfull

/-! ## The error channel -/

/-- **No move overdraws the error channel**. -/
theorem Move.errors_le (h : Move st a st' os) (hle : st.errors.length ≤ st.capacity.reports) :
    st'.errors.length ≤ st.capacity.reports := by
  cases h with
  | timeOutOffered | abandonOffered | take =>
    rw [State.offer_errors]
    exact hle
  | report f last _ _ room =>
    rw [List.length_append]
    exact room
  | receive f rest channel _ =>
    rw [channel, List.length_cons] at hle
    exact Nat.le_of_succ_le hle
  | dropReceiver => exact Nat.zero_le _
  | _ => exact hle

/-- A channel that nobody listens to is empty. -/
theorem Move.errors_eq_nil (h : Move st a st' os) (hnil : st.hasReceiver = false → st.errors = []) :
    st'.hasReceiver = false → st'.errors = [] := by
  cases h with
  | timeOutOffered | abandonOffered | take =>
    rw [State.offer_errors, State.offer_hasReceiver]
    exact hnil
  | report f last _ listening _ =>
    intro hr
    rw [listening] at hr
    cases hr
  | receive f rest _ listening =>
    intro hr
    rw [listening] at hr
    cases hr
  | dropReceiver => exact fun _ => rfl
  | _ => exact hnil

/-! ## The end -/

/-- The queue is closed only on request. -/
theorem Move.closeRequested (h : Move st a st' os) (hreq : st.draining → st.closeRequested) :
    st'.draining → st'.closeRequested := by
  cases h with
  | timeOutOffered | abandonOffered | take =>
    rw [State.offer_draining, State.offer_closeRequested]
    exact hreq
  | requestClose => exact fun _ => rfl
  | drain _ requested _ => exact fun _ => requested
  | _ => exact hreq

/-- A close is requested by whoever requests it, and by nobody else. -/
theorem Move.closeRequested_iff (h : Move st a st' os) :
    st'.closeRequested ↔ st.closeRequested ∨ .requestClose ∈ [a] := by
  cases h <;> simp

/-- **Nobody is left over**: where the handle is gone no call is open. -/
def State.Idle (st : State) : Prop := st.hasHandle = false → st.pending = []

/-- A call is open only while there is a handle. -/
theorem State.Idle.hasHandle (h : st.Idle) {s : Submission} (hs : s ∈ st.pending) :
    st.hasHandle = true := by
  by_contra hh
  rw [h (Bool.not_eq_true _ ▸ hh)] at hs
  exact List.not_mem_nil hs

/-- No move leaves a call behind without a handle. -/
theorem Move.idle (h : Move st a st' os) (hidle : st.Idle) : st'.Idle := by
  intro hh
  cases h with
  | check s handle _ =>
    rw [handle] at hh
    cases hh
  | reserveClosed s mem | reserveSlot s mem | reserveWait s mem | resumeClosed s mem
  | resumeSlot s mem | resumeTurnedAway s _ mem | send s mem | confirm s mem
  | timeOutWaiting s mem | abandonChecked s mem | abandonWaiting s _ mem =>
    rw [hidle.hasHandle (s := s) (by simp [State.pending, mem])] at hh
    cases hh
  | timeOutOffered s _ mem | abandonOffered s _ _ mem =>
    rw [State.offer_hasHandle, hidle.hasHandle (s := s) (by simp [State.pending, mem])] at hh
    cases hh
  | take s rest _ _ =>
    rw [State.offer_hasHandle] at hh
    rw [State.offer_pending]
    exact hidle hh
  | dropHandle _ idle => exact idle
  | _ => exact hidle hh

/-- **Sealed**: the queue is empty, and nobody can enter it any more. -/
structure State.Sealed (st : State) : Prop where
  items_eq : st.items = []
  offered_eq : st.offered = []
  holding_eq : st.holding = []
  shut : st.draining ∨ st.hasHandle = false

/-- A sealed queue has no slot to give to a call that asks for one. -/
theorem State.Sealed.draining (h : st.Sealed) (hidle : st.Idle) {s : Submission}
    (hs : s ∈ st.pending) : st.draining = true :=
  h.shut.resolve_right fun hh => Bool.false_ne_true (hh.symm.trans (hidle.hasHandle hs))

/-- **A sealed queue stays sealed.** -/
theorem Move.sealed (h : Move st a st' os) (hidle : st.Idle) (hs : st.Sealed) : st'.Sealed := by
  cases h with
  | reserveSlot s mem running | reserveWait s mem running =>
    rw [hs.draining hidle (s := s) (by simp [State.pending, mem])] at running
    cases running
  | resumeClosed s mem | resumeSlot s mem | timeOutOffered s _ mem | abandonOffered s _ _ mem =>
    rw [hs.offered_eq] at mem
    cases mem
  | send s mem =>
    rw [hs.holding_eq] at mem
    cases mem
  | take s rest _ queue =>
    rw [hs.items_eq] at queue
    cases queue
  | dropHandle => exact ⟨hs.items_eq, hs.offered_eq, hs.holding_eq, .inr rfl⟩
  | drain => exact ⟨hs.items_eq, hs.offered_eq, hs.holding_eq, .inl rfl⟩
  | _ => exact ⟨hs.items_eq, hs.offered_eq, hs.holding_eq, hs.shut⟩

/-- **Once the sink was asked to close, the queue is sealed**, and so it stays. -/
theorem Move.sealed_of_isOver (h : Move st a st' os) (hidle : st.Idle)
    (hover : st.phase.isOver → st.Sealed) : st'.phase.isOver → st'.Sealed := by
  intro ho
  by_cases hst : st.phase.isOver
  · exact h.sealed hidle (hover hst)
  -- from here on the move is the one that asks the sink to close
  cases h with
  | finish _ empty last =>
    obtain hh | ⟨hd, hoff, hhold⟩ := last
    · have hnil : st.pending = [] := hidle hh
      simp only [State.pending, List.append_eq_nil_iff] at hnil
      exact ⟨empty, hnil.1.1.2.1, hnil.1.2, .inr hh⟩
    · exact ⟨empty, hoff, hhold, .inl hd⟩
  | report f last busy _ _ | lose f last busy _ =>
    cases last with
    | true => exact absurd (by rw [busy]; rfl) hst
    | false => cases ho
  | sinkClosedOk busy | sinkClosedError _ busy => exact absurd (by rw [busy]; rfl) hst
  | timeOutOffered | abandonOffered =>
    rw [State.offer_phase] at ho
    exact absurd ho hst
  | take =>
    rw [State.offer_phase] at ho
    cases ho
  | answerOk | answerError => cases ho
  | _ => exact absurd ho hst

/-! ## All of it -/

/-- What holds of a producer **at every moment**. -/
structure Sound (st : State) : Prop where
  /-- No more slots are taken than there are. -/
  taken_le : st.taken ≤ st.capacity.slots
  /-- Nobody waits for a slot that is free. -/
  full : st.Full
  /-- The error channel holds what it has room for. -/
  errors_le : st.errors.length ≤ st.capacity.reports
  /-- It is empty if nobody listens. -/
  deaf : st.hasReceiver = false → st.errors = []
  /-- The queue is closed only on request. -/
  requested : st.draining → st.closeRequested
  /-- No call is open without a handle. -/
  idle : st.Idle
  /-- Once the sink was asked to close the queue is empty and shut. -/
  sealed : st.phase.isOver → st.Sealed

/-- A producer that has just started is sound. -/
theorem Sound.start (capacity : Capacity) (kind : String) : Sound (start capacity kind) where
  taken_le := Nat.zero_le _
  full := fun _ hw => absurd rfl hw
  errors_le := Nat.zero_le _
  deaf := fun _ => rfl
  requested := fun hd => hd
  idle := fun _ => rfl
  sealed := fun ho => absurd ho Bool.false_ne_true

/-- A sound producer stays sound. -/
theorem Sound.of_move (hs : Sound st) (h : Move st a st' os) : Sound st' where
  taken_le := h.capacity_eq ▸ h.taken_le hs.taken_le
  full := h.full hs.taken_le hs.full
  errors_le := h.capacity_eq ▸ h.errors_le hs.errors_le
  deaf := h.errors_eq_nil hs.deaf
  requested := h.closeRequested hs.requested
  idle := h.idle hs.idle
  sealed := h.sealed_of_isOver hs.idle hs.sealed

/-- **A producer is sound wherever a run leads.** -/
theorem Sound.of_exec {capacity : Capacity} {kind : String} {as : List Action}
    {tr : List Occurrence} (h : exec step as (Producer.start capacity kind) = some (st, tr)) :
    Sound st :=
  exec_invariant (Sound.start capacity kind)
    (fun _ _ _ _ hs ha => hs.of_move (.of_step ha)) h

/-- A producer stays as it was made: its size and its kind of sink. -/
theorem capacity_kind_of_exec {capacity : Capacity} {kind : String} {as : List Action}
    {tr : List Occurrence} (h : exec step as (Producer.start capacity kind) = some (st, tr)) :
    st.capacity = capacity ∧ st.kind = kind :=
  exec_invariant (P := fun st => st.capacity = capacity ∧ st.kind = kind) ⟨rfl, rfl⟩
    (fun _ _ _ _ hs ha =>
      ⟨(Move.of_step ha).capacity_eq.trans hs.1, (Move.of_step ha).kind_eq.trans hs.2⟩) h

/-- Whether a close was requested is seen from the state, from then on. -/
theorem closeRequested_iff (h : exec step as (start capacity kind) = some (st, tr)) :
    st.closeRequested ↔ .requestClose ∈ as := by
  refine exec_induction (motive := fun as st _ => st.closeRequested ↔ .requestClose ∈ as)
    (by simp [start]) (fun as st tr a st' os _ ih ha => ?_) h
  rw [(Move.of_step ha).closeRequested_iff, ih, List.mem_append]

end RecordRelay.Producer
