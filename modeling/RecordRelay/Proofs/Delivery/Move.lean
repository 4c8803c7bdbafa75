import Mathlib.Tactic.SplitIfs
import RecordRelay.Delivery.Producer

/-!
# The moves of a producer

`Producer.step` decides what an action does by looking at the state. This module says the same the
other way round: `Move` lists every **move** a producer can make, with what must hold for it, what
it changes and what occurs, and `step_eq_some_iff` says that these are the steps. A proof about one
step is then a case analysis on the moves, and whoever wants a step to be possible names the move.

A slot that comes free goes to whoever waits longest. That is the one thing a move does to
submissions other than its own, and the lemmas on `State.offer` say how little it is: it only takes
submissions from the head of those who wait and puts them behind those who were given a slot.
-/

namespace RecordRelay.Producer

namespace State

variable (st : State)

@[simp] theorem offer_capacity : st.offer.capacity = st.capacity := by unfold offer; split <;> rfl
@[simp] theorem offer_kind : st.offer.kind = st.kind := by unfold offer; split <;> rfl
@[simp] theorem offer_items : st.offer.items = st.items := by unfold offer; split <;> rfl
@[simp] theorem offer_checked : st.offer.checked = st.checked := by unfold offer; split <;> rfl
@[simp] theorem offer_holding : st.offer.holding = st.holding := by unfold offer; split <;> rfl
@[simp] theorem offer_sent : st.offer.sent = st.sent := by unfold offer; split <;> rfl
@[simp] theorem offer_closeRequested : st.offer.closeRequested = st.closeRequested := by
  unfold offer; split <;> rfl
@[simp] theorem offer_draining : st.offer.draining = st.draining := by unfold offer; split <;> rfl
@[simp] theorem offer_hasHandle : st.offer.hasHandle = st.hasHandle := by
  unfold offer; split <;> rfl
@[simp] theorem offer_phase : st.offer.phase = st.phase := by unfold offer; split <;> rfl
@[simp] theorem offer_errors : st.offer.errors = st.errors := by unfold offer; split <;> rfl
@[simp] theorem offer_hasReceiver : st.offer.hasReceiver = st.hasReceiver := by
  unfold offer; split <;> rfl

/-- **Nobody overtakes**: those who were given a slot, followed by those who wait, stay in line. -/
@[simp]
theorem offer_offered_append_waiting :
    st.offer.offered ++ st.offer.waiting = st.offered ++ st.waiting := by
  unfold offer
  split
  · rfl
  · rw [List.append_assoc, List.take_append_drop]

/-- Giving slots away ends no call and starts none. -/
@[simp]
theorem offer_pending : st.offer.pending = st.pending := by
  rw [pending, offer_checked, offer_offered_append_waiting, offer_holding, offer_sent, pending]

end State

/-- What a **move** needs, changes and shows. -/
inductive Move (st : State) : Action → State → List Occurrence → Prop where
  | refuse (s : Submission) (handle : st.hasHandle) (requested : st.closeRequested) :
    Move st (.submit s) st [.rejected s .closed]
  | check (s : Submission) (handle : st.hasHandle) (running : st.closeRequested = false) :
    Move st (.submit s) { st with checked := st.checked ++ [s] } []
  | reserveClosed (s : Submission) (mem : s ∈ st.checked) (closed : st.draining) :
    Move st (.reserve s) { st with checked := st.checked.erase s } [.rejected s .closed]
  | reserveSlot (s : Submission) (mem : s ∈ st.checked) (running : st.draining = false)
      (free : st.taken < st.capacity.slots) :
    Move st (.reserve s)
      { st with checked := st.checked.erase s, holding := st.holding ++ [s] } []
  | reserveWait (s : Submission) (mem : s ∈ st.checked) (running : st.draining = false)
      (full : st.capacity.slots ≤ st.taken) :
    Move st (.reserve s)
      { st with checked := st.checked.erase s, waiting := st.waiting ++ [s] } []
  | resumeClosed (s : Submission) (mem : s ∈ st.offered) (closed : st.draining) :
    Move st (.resume s) { st with offered := st.offered.erase s } [.rejected s .closed]
  | resumeSlot (s : Submission) (mem : s ∈ st.offered) (running : st.draining = false) :
    Move st (.resume s)
      { st with offered := st.offered.erase s, holding := st.holding ++ [s] } []
  | resumeTurnedAway (s : Submission) (notMem : s ∉ st.offered) (mem : s ∈ st.waiting)
      (closed : st.draining) :
    Move st (.resume s) { st with waiting := st.waiting.erase s } [.rejected s .closed]
  | send (s : Submission) (mem : s ∈ st.holding) :
    Move st (.send s)
      { st with
        holding := st.holding.erase s
        items := st.items ++ [s]
        sent := st.sent ++ [s] } [.entered s]
  | confirm (s : Submission) (mem : s ∈ st.sent) :
    Move st (.confirm s) { st with sent := st.sent.erase s } [.accepted s]
  | timeOutWaiting (s : Submission) (mem : s ∈ st.waiting) :
    Move st (.timeOut s) { st with waiting := st.waiting.erase s }
      [.rejected s (.queueFull st.capacity.patienceMs)]
  | timeOutOffered (s : Submission) (notMem : s ∉ st.waiting) (mem : s ∈ st.offered) :
    Move st (.timeOut s) { st with offered := st.offered.erase s }.offer
      [.rejected s (.queueFull st.capacity.patienceMs)]
  | abandonChecked (s : Submission) (mem : s ∈ st.checked) :
    Move st (.abandon s) { st with checked := st.checked.erase s } [.abandoned s]
  | abandonWaiting (s : Submission) (notMem : s ∉ st.checked) (mem : s ∈ st.waiting) :
    Move st (.abandon s) { st with waiting := st.waiting.erase s } [.abandoned s]
  | abandonOffered (s : Submission) (notMem : s ∉ st.checked) (notMem' : s ∉ st.waiting)
      (mem : s ∈ st.offered) :
    Move st (.abandon s) { st with offered := st.offered.erase s }.offer [.abandoned s]
  | requestClose (handle : st.hasHandle) :
    Move st .requestClose { st with closeRequested := true } []
  | dropHandle (handle : st.hasHandle) (idle : st.pending = []) :
    Move st .dropHandle { st with hasHandle := false } []
  | drain (ready : st.phase = .ready) (requested : st.closeRequested)
      (running : st.draining = false) :
    Move st .drain { st with draining := true } []
  | take (s : Submission) (rest : List Submission) (ready : st.phase = .ready)
      (queue : st.items = s :: rest) :
    Move st .take { st with items := rest, phase := .appending s }.offer [.handed s]
  | answerOk (s : Submission) (busy : st.phase = .appending s) :
    Move st (.answer (.ok ())) { st with phase := .ready } [.appended s (.ok ())]
  | answerError (s : Submission) (fault : SinkFault) (busy : st.phase = .appending s) :
    Move st (.answer (.error fault)) { st with phase := .reporting (reportOf s fault) false }
      [.appended s (.error fault)]
  | report (f : Undelivered) (last : Bool) (busy : st.phase = .reporting f last)
      (listening : st.hasReceiver) (room : st.errors.length < st.capacity.reports) :
    Move st .report
      { st with phase := .afterReport last, errors := st.errors ++ [f] } []
  | lose (f : Undelivered) (last : Bool) (busy : st.phase = .reporting f last)
      (deaf : st.hasReceiver = false) :
    Move st .report { st with phase := .afterReport last } [.lost f]
  | finish (ready : st.phase = .ready) (empty : st.items = [])
      (last : st.hasHandle = false ∨ st.draining ∧ st.offered = [] ∧ st.holding = []) :
    Move st .finish { st with phase := .closing } [.sinkClosing]
  | sinkClosedOk (busy : st.phase = .closing) :
    Move st (.sinkClosed (.ok ())) { st with phase := .stopped } [.sinkClosed (.ok ())]
  | sinkClosedError (fault : SinkFault) (busy : st.phase = .closing) :
    Move st (.sinkClosed (.error fault))
      { st with phase := .reporting (closingReport st.kind fault) true }
      [.sinkClosed (.error fault)]
  | receive (f : Undelivered) (rest : List Undelivered) (channel : st.errors = f :: rest)
      (listening : st.hasReceiver) :
    Move st .receive { st with errors := rest } [.received f]
  | dropReceiver (listening : st.hasReceiver) :
    Move st .dropReceiver { st with hasReceiver := false, errors := [] } (st.errors.map .lost)

variable {st st' : State} {a : Action} {os : List Occurrence}

/-- Every step is a move. -/
theorem Move.of_step (h : step a st = some (st', os)) : Move st a st' os := by
  cases a with
  | submit s =>
    simp only [step] at h
    split_ifs at h with hh hc <;> cases h
    · exact .refuse s (by simpa using hh) hc
    · exact .check s (by simpa using hh) (by simpa using hc)
  | reserve s =>
    simp only [step] at h
    split_ifs at h with hs hd ht <;> cases h
    · exact .reserveClosed s (by simpa using hs) hd
    · exact .reserveSlot s (by simpa using hs) (by simpa using hd) ht
    · exact .reserveWait s (by simpa using hs) (by simpa using hd) (Nat.le_of_not_lt ht)
  | resume s =>
    simp only [step] at h
    split_ifs at h with hs hd hw <;> cases h
    · exact .resumeClosed s hs hd
    · exact .resumeSlot s hs (by simpa using hd)
    · exact .resumeTurnedAway s hs hw.1 hw.2
  | send s =>
    simp only [step] at h
    split_ifs at h with hs
    cases h
    exact .send s (by simpa using hs)
  | confirm s =>
    simp only [step] at h
    split_ifs at h with hs
    cases h
    exact .confirm s (by simpa using hs)
  | timeOut s =>
    simp only [step] at h
    split_ifs at h with hw ho <;> cases h
    · exact .timeOutWaiting s hw
    · exact .timeOutOffered s hw ho
  | abandon s =>
    simp only [step] at h
    split_ifs at h with hc hw ho <;> cases h
    · exact .abandonChecked s hc
    · exact .abandonWaiting s hc hw
    · exact .abandonOffered s hc hw ho
  | requestClose =>
    simp only [step] at h
    split_ifs at h with hh
    cases h
    exact .requestClose hh
  | dropHandle =>
    simp only [step] at h
    split_ifs at h with hh
    cases h
    exact .dropHandle hh.1 hh.2
  | drain =>
    simp only [step] at h
    split_ifs at h with hd
    cases h
    exact .drain hd.1 hd.2.1 (by simpa using hd.2.2)
  | take =>
    simp only [step] at h
    split at h
    · next s rest hp hi =>
      cases h
      exact .take s rest hp hi
    · cases h
  | answer result =>
    simp only [step] at h
    split at h
    · next s hp =>
      rcases result with fault | ⟨⟩ <;> cases h
      · exact .answerError s fault hp
      · exact .answerOk s hp
    · cases h
  | report =>
    simp only [step] at h
    split at h
    · next f last hp =>
      split_ifs at h with hr hlen <;> cases h
      · exact .report f last hp hr hlen
      · exact .lose f last hp (by simpa using hr)
    · cases h
  | finish =>
    simp only [step] at h
    split_ifs at h with hf
    cases h
    exact .finish hf.1 hf.2.1 (by simpa using hf.2.2)
  | sinkClosed result =>
    simp only [step] at h
    split at h
    · next hp =>
      rcases result with fault | ⟨⟩ <;> cases h
      · exact .sinkClosedError fault hp
      · exact .sinkClosedOk hp
    · cases h
  | receive =>
    simp only [step] at h
    split at h
    · next f rest he =>
      split_ifs at h with hr
      cases h
      exact .receive f rest he hr
    · cases h
  | dropReceiver =>
    simp only [step] at h
    split_ifs at h with hr
    cases h
    exact .dropReceiver hr

/-- **The steps are the moves.** -/
theorem step_eq_some_iff : step a st = some (st', os) ↔ Move st a st' os := by
  refine ⟨Move.of_step, fun h => ?_⟩
  cases h with
  | refuse s hh hc => simp [step, hh, hc]
  | check s hh hc => simp [step, hh, hc]
  | reserveClosed s hs hd => simp [step, hs, hd]
  | reserveSlot s hs hd ht => simpa [step, hs, hd, State.taken] using ht
  | reserveWait s hs hd ht => simpa [step, hs, hd, State.taken] using ht
  | resumeClosed s hs hd => simp [step, hs, hd]
  | resumeSlot s hs hd => simp [step, hs, hd]
  | resumeTurnedAway s hs hw hd => simp [step, hs, hw, hd]
  | send s hs => simp [step, hs]
  | confirm s hs => simp [step, hs]
  | timeOutWaiting s hw => simp [step, hw]
  | timeOutOffered s hw ho => simp [step, hw, ho]
  | abandonChecked s hc => simp [step, hc]
  | abandonWaiting s hc hw => simp [step, hc, hw]
  | abandonOffered s hc hw ho => simp [step, hc, hw, ho]
  | requestClose hh => simp [step, hh]
  | dropHandle hh hp => simp [step, hh, hp]
  | drain hp hr hd => simp [step, hp, hr, hd]
  | take s rest hp hi => simp [step, hp, hi]
  | answerOk s hp => simp [step, hp]
  | answerError s fault hp => simp [step, hp]
  | report f last hp hr hlen => simp [step, hp, hr, hlen]
  | lose f last hp hr => simp [step, hp, hr]
  | finish hp hi ho => simp [step, hp, hi, ho]
  | sinkClosedOk hp => simp [step, hp]
  | sinkClosedError fault hp => simp [step, hp]
  | receive f rest he hr => simp [step, he, hr]
  | dropReceiver hr => simp [step, hr]

end RecordRelay.Producer
