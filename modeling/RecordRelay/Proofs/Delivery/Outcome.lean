import RecordRelay.Proofs.Delivery.Counters
import RecordRelay.Proofs.Delivery.Forgiving
import RecordRelay.Proofs.Delivery.Queue

/-!
# All or nothing

A call either puts its message into the queue and returns the identifier, or it leaves no mark: it
is refused or dropped, and the queue is as if it had never been made. Many calls race for the slots
of a queue that is full, and each of them may run out of patience, be dropped, be given a slot or
find the queue closed, whichever comes first. `Withdrawn` says what a call that leaves without a
message changes in that moment, and that is its own place in line; a slot that it was given goes to
whoever waits longest. `AllOrNothing` puts this together with the account of all calls, the reasons
for which a call is refused, and what the counters make of it.
-/

namespace RecordRelay

namespace Producer

open Occurrence

variable {st st' : State} {a : Action} {os : List Occurrence}

/-! ## Leaving without a message -/

/-- What **the call of `s`, leaving without a message**, changes: its own place in line. -/
structure Withdrawn (s : Submission) (st st' : State) : Prop where
  /-- The queue stays as it was. -/
  items_eq : st'.items = st.items
  /-- So do the calls that hold a slot, -/
  holding_eq : st'.holding = st.holding
  /-- those that entered, -/
  sent_eq : st'.sent = st.sent
  /-- and the dispatcher. -/
  phase_eq : st'.phase = st.phase
  /-- Nobody who waits for a slot is overtaken, -/
  line : (st'.offered ++ st'.waiting).Sublist (st.offered ++ st.waiting)
  /-- nor anybody who has yet to ask for one. -/
  checked : st'.checked.Sublist st.checked
  /-- Every other call stays open. -/
  others : ∀ t, t ≠ s → st'.pending.count t = st.pending.count t
  /-- No slot is kept for the call: while somebody waits all slots are taken by others. -/
  full : st'.Full

/-- Where a call leaves without a message, no other call ends. -/
theorem Move.count_pending_of_ne (h : Move st a st' os) {s t : Submission}
    (hs : s ∈ os.filterMap rejected? ++ os.filterMap abandoned?) (hne : t ≠ s) :
    st'.pending.count t = st.pending.count t := by
  have hcount := h.count_pending t
  have hended : (os.filterMap ended?).count t = ([a].filterMap Action.start?).count t := by
    cases h with
    | refuse s' => rfl
    | reserveClosed s' | resumeClosed s' | resumeTurnedAway s' | timeOutWaiting s'
    | timeOutOffered s' | abandonChecked s' | abandonWaiting s' | abandonOffered s' =>
      obtain rfl : s = s' := List.mem_singleton.mp hs
      exact List.count_eq_zero.mpr fun hmem => hne (List.mem_singleton.mp hmem)
    | dropReceiver =>
      rw [filterMap_map_lost (fun _ => rfl)]
      rfl
    | _ => cases hs
  omega

/-- **A call that is refused or dropped leaves no mark.** -/
theorem Move.withdrawn (h : Move st a st' os) (hsound : Sound st) {s : Submission}
    (hs : s ∈ os.filterMap rejected? ++ os.filterMap abandoned?) : Withdrawn s st st' := by
  have hfull : st'.Full := (hsound.of_move h).full
  have hothers := fun t => h.count_pending_of_ne (t := t) hs
  cases h with
  | refuse => exact ⟨rfl, rfl, rfl, rfl, .refl _, .refl _, hothers, hfull⟩
  | reserveClosed | abandonChecked =>
    exact ⟨rfl, rfl, rfl, rfl, .refl _, List.erase_sublist, hothers, hfull⟩
  | resumeClosed =>
    exact ⟨rfl, rfl, rfl, rfl, List.erase_sublist.append_right _, .refl _, hothers, hfull⟩
  | resumeTurnedAway | timeOutWaiting | abandonWaiting =>
    exact ⟨rfl, rfl, rfl, rfl, List.erase_sublist.append_left _, .refl _, hothers, hfull⟩
  | timeOutOffered | abandonOffered =>
    refine ⟨State.offer_items _, State.offer_holding _, State.offer_sent _, State.offer_phase _,
      ?_, ?_, hothers, hfull⟩
    · rw [State.offer_offered_append_waiting]
      exact List.erase_sublist.append_right _
    · rw [State.offer_checked]
  | dropReceiver =>
    rw [filterMap_map_lost (fun _ => rfl), filterMap_map_lost (fun _ => rfl)] at hs
    cases hs
  | _ => cases hs

/-! ## Why a call is refused -/

/-- **A call is refused** because a close was requested, or because its time is up. -/
theorem Move.rejected (h : Move st a st' os) (hsound : Sound st) {s : Submission}
    {why : Rejection} (hs : .rejected s why ∈ os) :
    why = .closed ∧ st.closeRequested
      ∨ why = .queueFull st.capacity.patienceMs ∧ a = .timeOut s := by
  cases h with
  | refuse _ _ requested =>
    cases List.mem_singleton.mp hs
    exact .inl ⟨rfl, requested⟩
  | reserveClosed _ _ closed | resumeClosed _ _ closed | resumeTurnedAway _ _ _ closed =>
    cases List.mem_singleton.mp hs
    exact .inl ⟨rfl, hsound.requested closed⟩
  | timeOutWaiting | timeOutOffered =>
    cases List.mem_singleton.mp hs
    exact .inr ⟨rfl, rfl⟩
  | dropReceiver =>
    obtain ⟨f, -, hf⟩ := List.mem_map.mp hs
    cases hf
  | _ => simp at hs

end Producer

namespace Publisher

open Occurrence

variable {st st' : State} {a : Action} {os : List Occurrence}

/-- A call is refused at a publisher for the reasons for which it is refused at its producer. -/
theorem Move.rejected (h : Move st a st' os) (hsound : Producer.Sound st.producer)
    {s : Submission} {why : Rejection} (hs : .rejected s why ∈ os) :
    why = .closed ∧ st.producer.closeRequested
      ∨ why = .queueFull st.producer.capacity.patienceMs ∧ a = .producer (.timeOut s) := by
  cases h with
  | producer free move =>
    exact (move.rejected hsound hs).imp_right (And.imp_right (congrArg Action.producer))
  | _ => simp at hs

/-- A call that leaves a publisher without a message leaves its producer so, and the rest of the
publisher does not notice. -/
theorem Move.withdrawn (h : Move st a st' os) (hsound : Producer.Sound st.producer)
    {s : Submission} (hs : s ∈ os.filterMap rejected? ++ os.filterMap abandoned?) :
    Producer.Withdrawn s st.producer st'.producer ∧ st' = { st with producer := st'.producer } := by
  cases h with
  | producer free move => exact ⟨move.withdrawn hsound hs, rfl⟩
  | _ => cases hs

variable {capacity : Capacity} {kind : String} {as : List Action} {tr : List Occurrence}

/-- **After a close was requested every call that starts is refused**, and nothing else happens. -/
theorem step_submit_of_closeRequested (h : exec step as (start capacity kind) = some (st, tr))
    (hreq : CloseRequested as) (s : Submission) :
    step (.producer (.submit s)) st
      = if st.producer.hasHandle then some (st, [.rejected s .closed]) else none := by
  have hclosed := (Producer.closeRequested_iff (exec_producer_start rfl h)).mpr hreq
  cases hh : st.producer.hasHandle <;> simp [step, State.free, Producer.step, hh, hclosed]

open Metrics Instrument in
/-- **All or nothing**, on a publisher of this size and with a sink of this kind. -/
structure AllOrNothing (capacity : Capacity) (kind : String) (as : List Action) (st : State)
    (tr : List Occurrence) : Prop where
  /-- Every call that was started is open or has ended, in one way and once. -/
  ended : (st.producer.pending ++ tr.filterMap ended?).Perm (started as)
  /-- Those who entered the queue told their callers or are about to, and nobody else did. -/
  entered : (st.producer.sent ++ tr.filterMap accepted?).Perm (tr.filterMap entered?)
  /-- A call that has ended returned its identifier if and only if its message entered. -/
  returned : (started as).Nodup → ∀ s ∈ tr.filterMap ended?,
    (s ∈ tr.filterMap accepted? ↔ s ∈ tr.filterMap entered?)
  /-- A call that was refused or dropped has no message in the queue, never had one, and none of
  its messages was handed to the sink; and it is not open, so that no slot is kept for it. -/
  nothing : (started as).Nodup → ∀ s ∈ tr.filterMap rejected? ++ tr.filterMap abandoned?,
    s ∉ tr.filterMap entered? ∧ s ∉ tr.filterMap handed? ∧ s ∉ st.producer.items
      ∧ s ∉ st.producer.pending
  /-- A step that refuses or drops a call leaves no mark of it. -/
  unmarked : ∀ a st' os, step a st = some (st', os) →
    ∀ s ∈ os.filterMap rejected? ++ os.filterMap abandoned?,
      Producer.Withdrawn s st.producer st'.producer ∧ st' = { st with producer := st'.producer }
  /-- A call that starts after a close was requested is refused. -/
  late : CloseRequested as → ∀ s, step (.producer (.submit s)) st
    = if st.producer.hasHandle then some (st, [.rejected s .closed]) else none
  /-- When a call is refused, a close was requested before, or its time is up. -/
  reason : ∀ a st' os, step a st = some (st', os) → ∀ s why, .rejected s why ∈ os →
    why = .closed ∧ CloseRequested as
      ∨ why = .queueFull capacity.patienceMs ∧ a = .producer (.timeOut s)
  /-- Had the sink never failed, the same calls would have ended in the same ways. -/
  forgiven : exec step (as.filterMap Action.forgive?) (start capacity kind)
      = some (st.forgive, tr.filterMap Occurrence.forgive?)
    ∧ Producer.failures kind (tr.filterMap Occurrence.forgive?) = []
    ∧ started (as.filterMap Action.forgive?) = started as
    ∧ (tr.filterMap Occurrence.forgive?).filterMap outcome? = tr.filterMap outcome?
  /-- The counters count the calls that returned an identifier, with the size of what they
  submitted, and those that were refused; -/
  counted : moved (tr.filterMap event?) messagesSubmitted.value = (tr.filterMap accepted?).length
    ∧ moved (tr.filterMap event?) submittedBytes.count = (tr.filterMap accepted?).length
    ∧ moved (tr.filterMap event?) submittedBytes.sum
      = ((tr.filterMap accepted?).map (·.payload.size)).sum
    ∧ moved (tr.filterMap event?) submitRejected.value = (tr.filterMap rejected?).length
  /-- all others are open or were dropped. -/
  uncounted : (started as).length
    = moved (tr.filterMap event?) messagesSubmitted.value
      + moved (tr.filterMap event?) submitRejected.value
      + (tr.filterMap abandoned?).length + st.producer.pending.length

/-- **A call is all or nothing.** Whatever the sink answers, however large queue and error channel
are, and in whatever order calls, time-outs, drops, closes, dispatcher and drain take their steps,
a call returns its identifier if and only if its message entered the queue, and otherwise leaves no
mark there. -/
theorem call_all_or_nothing (h : exec step as (start capacity kind) = some (st, tr)) :
    AllOrNothing capacity kind as st tr := by
  have hrun := exec_producer_start rfl h
  have hstarted := started_perm rfl h
  have hentered := entered_perm rfl h
  have hqueue := handed_append_items rfl h
  obtain ⟨hsubmitted, hcount, hsum, hrejected, -, -⟩ := moved_series tr
  constructor
  case ended => exact hstarted
  case entered => exact hentered
  case returned =>
    intro hfresh s hs
    -- a call that has ended is not about to tell its caller
    have hnot : s ∉ st.producer.sent := fun hmem =>
      not_mem_pending_of_ended rfl h hfresh hs (List.mem_append_right _ hmem)
    rw [← hentered.mem_iff, List.mem_append, or_iff_right hnot]
  case nothing =>
    intro hfresh s hs
    have hone := count_entered_le_one rfl h hfresh s
    have hpos : 0 < (tr.filterMap rejected? ++ tr.filterMap abandoned?).count s :=
      List.count_pos_iff.mpr hs
    rw [List.count_append] at hpos
    have hnot : s ∉ tr.filterMap entered? := List.count_eq_zero.mp (by omega)
    have hended : s ∈ tr.filterMap ended? := by
      rw [← List.count_pos_iff, count_ended]
      omega
    refine ⟨hnot, ?_, ?_, not_mem_pending_of_ended rfl h hfresh hended⟩ <;> rw [← hqueue] at hnot
    · exact fun hmem => hnot (List.mem_append_left _ hmem)
    · exact fun hmem => hnot (List.mem_append_right _ hmem)
  case unmarked =>
    intro a st' os ha s hs
    exact (Move.of_step ha).withdrawn (Producer.Sound.of_exec hrun) hs
  case late => exact step_submit_of_closeRequested h
  case reason =>
    intro a st' os ha s why hs
    have hwhy := (Move.of_step ha).rejected (Producer.Sound.of_exec hrun) hs
    rwa [Producer.closeRequested_iff hrun, (Producer.capacity_kind_of_exec hrun).1] at hwhy
  case forgiven =>
    exact ⟨exec_forgive h, failures_forgive kind tr, started_forgive as, outcomes_forgive tr⟩
  case counted => exact ⟨hsubmitted, hcount, hsum, hrejected⟩
  case uncounted =>
    have hended := (ended_perm tr).length_eq
    have hlength := hstarted.length_eq
    simp only [List.length_append] at hended hlength
    omega

/-- In a run of six calls three return, two are refused and one is dropped. -/
theorem call_all_or_nothing_crowded :
    ∃ st tr, exec step crowded (start ⟨0, 0, 50⟩ "file") = some (st, tr)
      ∧ (started crowded).Nodup ∧ AllOrNothing ⟨0, 0, 50⟩ "file" crowded st tr
      ∧ tr.filterMap outcome?
        = [(letter "a", .accepted), (letter "b", .accepted),
          (letter "d", .rejected (.queueFull 50)), (letter "e", .abandoned),
          (letter "f", .rejected .closed), (letter "c", .accepted)] :=
  ⟨_, _, rfl, by decide, call_all_or_nothing
    (rfl : exec step crowded (start ⟨0, 0, 50⟩ "file") = some (_, _)), rfl⟩

end Publisher

end RecordRelay
