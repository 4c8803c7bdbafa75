import RecordRelay.Delivery.Session
import RecordRelay.Proofs.Run

/-!
# Publishing when there is room

A publisher that is open and has a free slot lets a message in at once: the submission finds it
open, takes the slot, enters the queue and tells its caller, and nothing else happens in between. So
the call returns before the sink has seen the message (`publish_of_hasRoom`), whatever the
dispatcher is about and however little patience the call has.
-/

namespace RecordRelay

namespace Producer

/-- Whether a producer **is open and has room** in its queue. -/
structure State.HasRoom (st : State) : Prop where
  /-- Somebody can still submit. -/
  hasHandle : st.hasHandle = true
  /-- No close was requested. -/
  closeRequested : st.closeRequested = false
  /-- The queue was not closed. -/
  draining : st.draining = false
  /-- A slot is free. -/
  room : st.taken < st.capacity.slots

/-- A producer with one more message **at the end of its queue**. -/
def State.enqueue (st : State) (s : Submission) : State := { st with items := st.items ++ [s] }

/-- What a submission does that **need not wait**. -/
def entering (s : Submission) : List Action := [.submit s, .reserve s, .send s, .confirm s]

/-- Where there is room a submission goes **straight through**. -/
theorem exec_entering {st : State} {s : Submission} (h : st.HasRoom) (hs : s ∉ st.pending) :
    exec step (entering s) st = some (st.enqueue s, [.entered s, .accepted s]) := by
  simp only [State.pending, List.mem_append, not_or] at hs
  obtain ⟨⟨⟨hchecked, -⟩, hholding⟩, hsent⟩ := hs
  -- the submission stands at the end of every list it enters, and nowhere else in that list
  have hmem : ∀ l : List Submission, s ∈ l ++ [s] := fun l =>
    List.mem_append_right l (List.mem_singleton_self s)
  have herase : ∀ {l : List Submission}, s ∉ l → (l ++ [s]).erase s = l := fun hl => by
    rw [List.erase_append_right _ hl, List.erase_cons_head, List.append_nil]
  have hsubmit : step (.submit s) st = some ({ st with checked := st.checked ++ [s] }, []) := by
    simp only [step, h.hasHandle, h.closeRequested, not_true_eq_false, if_false, Bool.false_eq_true]
  have hreserve : step (.reserve s) { st with checked := st.checked ++ [s] }
      = some ({ st with holding := st.holding ++ [s] }, []) := by
    have hroom := h.room
    unfold State.taken at hroom
    simp only [step, hmem, not_true_eq_false, if_false, herase hchecked, h.draining,
      Bool.false_eq_true, State.taken, hroom, if_true]
  have hsend : step (.send s) { st with holding := st.holding ++ [s] }
      = some ({ st.enqueue s with sent := st.sent ++ [s] }, [.entered s]) := by
    simp only [step, hmem, not_true_eq_false, if_false, herase hholding, State.enqueue]
  have hconfirm : step (.confirm s) { st.enqueue s with sent := st.sent ++ [s] }
      = some (st.enqueue s, [.accepted s]) := by
    simp only [step, hmem, not_true_eq_false, if_false, herase hsent, State.enqueue]
  exact exec_cons_eq_some_iff.mpr ⟨_, _, _, hsubmit, exec_cons_eq_some_iff.mpr ⟨_, _, _, hreserve,
    exec_cons_eq_some_iff.mpr ⟨_, _, _, hsend, exec_singleton_eq_some_iff.mpr hconfirm, rfl⟩, rfl⟩,
    rfl⟩

end Producer

namespace Publisher

/-- A run of the producer is a run of the publisher, if the publisher leaves it free. -/
theorem exec_map_producer {as : List Producer.Action} {st : State} {p : Producer.State}
    {tr : List Occurrence} (hfree : ∀ a ∈ as, ∀ st : State, st.free a = true)
    (h : exec Producer.step as st.producer = some (p, tr)) :
    exec step (as.map .producer) st = some ({ st with producer := p }, tr) := by
  induction as generalizing st tr with
  | nil =>
    cases h
    rfl
  | cons a as ih =>
    obtain ⟨next, now, later, hstep, hrest, rfl⟩ := exec_cons_eq_some_iff.mp h
    obtain ⟨ha, has⟩ := List.forall_mem_cons.mp hfree
    have hnow : step (.producer a) st = some ({ st with producer := next }, now) := by
      simp only [step, ha st, if_true, hstep, Option.map_some]
    have hlater : exec step (as.map .producer) { st with producer := next }
        = some ({ st with producer := p }, later) := ih has hrest
    exact exec_cons_eq_some_iff.mpr ⟨_, now, later, hnow, hlater, rfl⟩

/-- A submission can always be handed in, and go straight through. -/
theorem free_of_mem_entering {s : Submission} {a : Producer.Action} (ha : a ∈ Producer.entering s)
    (st : State) : st.free a = true := by
  simp only [Producer.entering, List.mem_cons, List.not_mem_nil, or_false] at ha
  obtain rfl | rfl | rfl | rfl := ha <;> rfl

end Publisher

namespace Session

variable {σ : Type} {w : Session σ} {s : Submission}

/-- What is performed one after the other is **a run**, if each step can happen when it is due. -/
theorem foldl_perform_of_exec {as : List Publisher.Action} {st : Publisher.State}
    {os : List Occurrence} (h : exec Publisher.step as w.state = some (st, os)) :
    as.foldl perform w = { w with state := st, trace := w.trace ++ os } := by
  induction as generalizing w os with
  | nil =>
    cases h
    rw [List.append_nil]
    rfl
  | cons a as ih =>
    obtain ⟨next, now, later, hstep, hrest, rfl⟩ := exec_cons_eq_some_iff.mp h
    have hnow : w.perform a = { w with state := next, trace := w.trace ++ now } := by
      unfold perform attempt?
      rw [hstep]
      rfl
    rw [List.foldl_cons, hnow, ih hrest, List.append_assoc]

/-- A session whose **producer has moved on** while this occurred. -/
def moved (w : Session σ) (st : Producer.State) (os : List Occurrence) : Session σ :=
  { w with state := { w.state with producer := st }, trace := w.trace ++ os }

/-- In a session, too, a submission for which there is room goes straight through. -/
theorem enter_of_hasRoom (h : w.state.producer.HasRoom) (hs : s ∉ w.state.producer.pending) :
    w.enter s = w.moved (w.state.producer.enqueue s) [.entered s, .accepted s] := by
  have hrun : exec Publisher.step ((Producer.entering s).map .producer) w.state
      = some ({ w.state with producer := w.state.producer.enqueue s },
        [.entered s, .accepted s]) :=
    Publisher.exec_map_producer (fun _ => Publisher.free_of_mem_entering)
      (Producer.exec_entering h hs)
  have henter := foldl_perform_of_exec hrun
  rwa [List.foldl_map] at henter

/-- Who does not wait **cannot give up**. -/
theorem giveUp_of_not_mem (hs : s ∉ w.state.producer.pending) : w.giveUp s = w := by
  simp only [Producer.State.pending, List.mem_append, not_or] at hs
  obtain ⟨⟨⟨-, hoffered, hwaiting⟩, -⟩, -⟩ := hs
  unfold giveUp perform attempt? Publisher.step
  simp only [Publisher.State.free, if_true, Producer.step, hwaiting, hoffered, if_false,
    Option.map_none, Option.getD_none]

/-- **A message is accepted at once** by a publisher with room: it stands at the end of the queue,
and its caller knows. -/
theorem publish_of_hasRoom (h : w.state.producer.HasRoom) (hs : s ∉ w.state.producer.pending) :
    w.publish s []
      = (.accepted, w.moved (w.state.producer.enqueue s) [.entered s, .accepted s]) := by
  have hpending : s ∉ (w.state.producer.enqueue s).pending := hs
  have hgiveUp : (w.moved (w.state.producer.enqueue s) [.entered s, .accepted s]).giveUp s
      = w.moved (w.state.producer.enqueue s) [.entered s, .accepted s] :=
    giveUp_of_not_mem hpending
  unfold publish
  dsimp only
  rw [enter_of_hasRoom h hs, hgiveUp, ite_self, if_pos ⟨rfl, hpending⟩]
  show ((List.findSome? (outcomeIn s)
    (List.drop w.trace.length (w.trace ++ [.entered s, .accepted s]))).getD .abandoned, _) = _
  rw [List.drop_left]
  simp only [List.findSome?_cons, outcomeIn, if_true, Option.getD_some]

end Session

end RecordRelay
