import RecordRelay.Proofs.Delivery.Calls

/-!
# The queue

What enters the queue is handed to the sink: **nothing is lost, nothing is handed over twice, and
nothing overtakes**. The queue is a pipe, so at every moment the messages handed over so far,
followed by those still in the queue, are those that entered it, in that order.

The sink is asked one thing at a time. A message is appended and answered for before the next is
handed over, and closing comes once, behind the last of them. When the dispatcher has stopped, the
conversation is complete (`sinkEvents_of_stopped`).
-/

namespace RecordRelay

namespace Producer

open Occurrence

variable {st st' : State} {a : Action} {os : List Occurrence}

/-- **The queue is a pipe**: what is handed over leaves it at the front, what enters it joins at the
end. -/
theorem Move.queue_flow (h : Move st a st' os) :
    os.filterMap handed? ++ st'.items = st.items ++ os.filterMap entered? := by
  cases h with
  | send s mem => rfl
  | take s rest _ queue =>
    rw [State.offer_items, queue]
    exact (List.append_nil _).symm
  | timeOutOffered | abandonOffered =>
    rw [State.offer_items]
    exact (List.append_nil _).symm
  | dropReceiver =>
    rw [filterMap_map_lost (fun _ => rfl), filterMap_map_lost (fun _ => rfl), List.append_nil]
    rfl
  | _ => exact (List.append_nil _).symm

/-- What happens between the dispatcher and the sink **for one message**. -/
def exchange (s : Submission) : List SinkEvent := [.appends s, .appended s]

/-- What happens between the dispatcher and the sink **at the end**. -/
def farewell : List SinkEvent := [.closes, .closed]

/-- The sink is asked **one thing at a time**: if what happened so far, with what the sink still
owes, is an exchange for each of these messages and perhaps a farewell, then so it is after a move,
with the message that it handed over. -/
theorem Move.sinkEvents (h : Move st a st' os) {said due : List SinkEvent}
    (ih : said ++ st.phase.owed = due ++ if st.phase.isOver then farewell else []) :
    said ++ os.filterMap sinkEvent? ++ st'.phase.owed
      = due ++ (os.filterMap handed?).flatMap exchange
        ++ if st'.phase.isOver then farewell else [] := by
  -- a move that speaks to the sink finds the dispatcher where it owes or is owed just that
  cases h with
  | take s rest ready _ =>
    rw [ready] at ih
    simp only [Phase.owed, Phase.isOver, List.append_nil] at ih
    simp [ih, handed?, sinkEvent?, Phase.owed, Phase.isOver, exchange]
  | answerOk s busy | answerError s _ busy =>
    rw [busy] at ih
    simp only [Phase.owed, Phase.isOver] at ih
    simpa [List.filterMap_cons, handed?, sinkEvent?, Phase.owed, Phase.isOver] using ih
  | report f last busy _ _ | lose f last busy _ =>
    rw [busy] at ih
    cases last <;>
      simpa [List.filterMap_cons, handed?, sinkEvent?, Phase.owed, Phase.isOver,
        Phase.afterReport] using ih
  | finish ready _ _ =>
    rw [ready] at ih
    simp only [Phase.owed, Phase.isOver, List.append_nil] at ih
    simp [ih, List.filterMap_cons, handed?, sinkEvent?, Phase.owed, Phase.isOver, farewell]
  | sinkClosedOk busy | sinkClosedError _ busy =>
    rw [busy] at ih
    simpa [List.filterMap_cons, handed?, sinkEvent?, Phase.owed, Phase.isOver] using ih
  | timeOutOffered | abandonOffered =>
    rw [State.offer_phase]
    simpa [List.filterMap_cons, handed?, sinkEvent?] using ih
  | dropReceiver =>
    rw [filterMap_map_lost (fun _ => rfl), filterMap_map_lost (fun _ => rfl)]
    simpa using ih
  | _ => simpa [List.filterMap_cons, handed?, sinkEvent?] using ih

variable {capacity : Capacity} {kind : String} {as : List Action} {tr : List Occurrence}

/-- **Nothing is lost, doubled or overtaken in the queue.** -/
theorem handed_append_items (h : exec step as (start capacity kind) = some (st, tr)) :
    tr.filterMap handed? ++ st.items = tr.filterMap entered? :=
  exec_flow (q := State.items) (fun _ _ => List.filterMap_append)
    (fun _ _ => List.filterMap_append)
    (fun _ _ _ _ _ _ _ ha => (Move.of_step ha).queue_flow) h

/-- What was answered, with what the sink has in hand, is what was handed over. -/
theorem answers_append_inHand (h : exec step as (start capacity kind) = some (st, tr)) :
    (tr.filterMap answer?).map Prod.fst ++ st.phase.inHand = tr.filterMap handed? := by
  refine exec_flow (q := fun st => st.phase.inHand)
    (g := fun l => (l.filterMap answer?).map Prod.fst)
    (fun _ _ => by simp) (fun _ _ => List.filterMap_append)
    (fun as s tr a t os hrun ha => ?_) h
  cases Move.of_step ha with
  | timeOutOffered | abandonOffered =>
    rw [State.offer_phase]
    exact (List.append_nil _).symm
  | take s rest ready _ =>
    rw [State.offer_phase, ready]
    rfl
  | answerOk s busy | answerError s _ busy | finish busy _ _ | sinkClosedOk busy
  | sinkClosedError _ busy =>
    rw [busy]
    rfl
  | report f last busy _ _ | lose f last busy _ =>
    rw [busy]
    cases last <;> rfl
  | dropReceiver =>
    rw [filterMap_map_lost (fun _ => rfl), filterMap_map_lost (fun _ => rfl)]
    exact (List.append_nil _).symm
  | _ => exact (List.append_nil _).symm

/-- **The conversation with the sink**: one exchange for each message that was handed over, and the
farewell, up to what the sink still owes. -/
theorem sinkEvents_append_owed (h : exec step as (start capacity kind) = some (st, tr)) :
    tr.filterMap sinkEvent? ++ st.phase.owed
      = (tr.filterMap handed?).flatMap exchange ++ if st.phase.isOver then farewell else [] := by
  refine exec_induction (motive := fun _ st tr => tr.filterMap sinkEvent? ++ st.phase.owed
    = (tr.filterMap handed?).flatMap exchange ++ if st.phase.isOver then farewell else []) rfl
    (fun as st tr a st' os _ ih ha => ?_) h
  rw [List.filterMap_append, List.filterMap_append, List.flatMap_append]
  exact (Move.of_step ha).sinkEvents ih

/-- **The whole conversation**, when the dispatcher has stopped: an exchange for each message that
entered the queue, in that order, and then the farewell. -/
theorem sinkEvents_of_stopped (h : exec step as (start capacity kind) = some (st, tr))
    (hstop : st.phase = .stopped) :
    tr.filterMap sinkEvent? = (tr.filterMap entered?).flatMap exchange ++ farewell := by
  have hempty : st.items = [] := ((Sound.of_exec h).sealed (by rw [hstop]; rfl)).items_eq
  have htalk := sinkEvents_append_owed h
  rw [hstop] at htalk
  rw [← handed_append_items h, hempty, List.append_nil, ← List.append_nil (tr.filterMap sinkEvent?)]
  exact htalk

/-- The queue holds no more than it has slots. -/
theorem length_items_le (h : exec step as (start capacity kind) = some (st, tr)) :
    st.items.length ≤ max 1 capacity.queue := by
  have htaken := (Sound.of_exec h).taken_le
  rw [(capacity_kind_of_exec h).1] at htaken
  simp only [State.taken, Capacity.slots] at htaken
  omega

end Producer

namespace Publisher

open Occurrence Producer

variable {capacity : Capacity} {kind : String} {st₀ st : Publisher.State}
  {as : List Publisher.Action} {tr : List Occurrence}

/-- The queue of a publisher is a pipe. -/
theorem handed_append_items (h₀ : st₀.producer = Producer.start capacity kind)
    (h : exec Publisher.step as st₀ = some (st, tr)) :
    tr.filterMap handed? ++ st.producer.items = tr.filterMap entered? := by
  have hrun := Producer.handed_append_items (exec_producer_start h₀ h)
  rwa [filterMap_filter_ofProducer (fun _ => rfl) (fun _ _ => rfl),
    filterMap_filter_ofProducer (fun _ => rfl) (fun _ _ => rfl)] at hrun

/-- What was answered, with what the sink has in hand, is what was handed over. -/
theorem answers_append_inHand (h₀ : st₀.producer = Producer.start capacity kind)
    (h : exec Publisher.step as st₀ = some (st, tr)) :
    (tr.filterMap answer?).map Prod.fst ++ st.producer.phase.inHand = tr.filterMap handed? := by
  have hrun := Producer.answers_append_inHand (exec_producer_start h₀ h)
  rwa [filterMap_filter_ofProducer (fun _ => rfl) (fun _ _ => rfl),
    filterMap_filter_ofProducer (fun _ => rfl) (fun _ _ => rfl)] at hrun

/-- The whole conversation of a publisher with its sink. -/
theorem sinkEvents_of_stopped (h₀ : st₀.producer = Producer.start capacity kind)
    (h : exec Publisher.step as st₀ = some (st, tr)) (hstop : st.producer.phase = .stopped) :
    tr.filterMap sinkEvent? = (tr.filterMap entered?).flatMap exchange ++ farewell := by
  have hrun := Producer.sinkEvents_of_stopped (exec_producer_start h₀ h) hstop
  rwa [filterMap_filter_ofProducer (fun _ => rfl) (fun _ _ => rfl),
    filterMap_filter_ofProducer (fun _ => rfl) (fun _ _ => rfl)] at hrun

/-- A dispatcher that has stopped has left nothing in the queue. -/
theorem items_eq_nil_of_stopped (h₀ : st₀.producer = Producer.start capacity kind)
    (h : exec Publisher.step as st₀ = some (st, tr)) (hstop : st.producer.phase = .stopped) :
    st.producer.items = [] :=
  ((Sound.of_exec (exec_producer_start h₀ h)).sealed (by rw [hstop]; rfl)).items_eq

/-- **No loss, no duplication, submission order.** Whatever the sink answers and in whatever order
calls, closes, dispatcher and drain take their steps, with a drain or without:

* the messages handed to the sink so far, followed by those in the queue, are the ones that entered
  the queue, in the order in which they did;
* these are the messages of the calls that returned an identifier or are about to, and no message is
  among them twice if no two calls submit the same;
* the queue holds at most as many as it has slots;
* when the dispatcher has stopped, the sink was handed every message that entered the queue and
  answered for it, one after the other, and then it was closed, once. -/
theorem handed_in_order
    (hstart : st₀ ∈ [Publisher.start capacity kind, Publisher.bare capacity kind])
    (h : exec Publisher.step as st₀ = some (st, tr)) :
    tr.filterMap handed? ++ st.producer.items = tr.filterMap entered?
      ∧ (st.producer.sent ++ tr.filterMap accepted?).Perm (tr.filterMap entered?)
      ∧ ((started as).Nodup → (tr.filterMap handed? ++ st.producer.items).Nodup)
      ∧ st.producer.items.length ≤ max 1 capacity.queue
      ∧ (st.producer.phase = .stopped →
        tr.filterMap sinkEvent? = (tr.filterMap entered?).flatMap exchange ++ farewell) := by
  have h₀ : st₀.producer = Producer.start capacity kind := by
    obtain rfl | rfl := List.mem_pair.mp hstart <;> rfl
  have horder := handed_append_items h₀ h
  refine ⟨horder, entered_perm h₀ h, fun hfresh => ?_,
    length_items_le (exec_producer_start h₀ h), sinkEvents_of_stopped h₀ h⟩
  rw [horder, List.nodup_iff_count]
  intro x
  have hone := count_entered_le_one h₀ h hfresh x
  omega

/-- A message of the run below. -/
def letter (id : String) : Submission := ⟨⟨id⟩, "people", ⟨.json, [123, 125]⟩, .epoch⟩

/-- A run with **much going on at once**, on a queue with a single slot: three messages enter, and
`d` runs out of patience, `e` is dropped, `f` comes too late. The sink fails for `a` and for `b` and
when it is closed, and two calls close the publisher. -/
def crowded : List Publisher.Action :=
  [.producer (.submit (letter "a")), .producer (.reserve (letter "a")),
    .producer (.send (letter "a")), .producer .take, .producer (.confirm (letter "a")),
    .producer (.submit (letter "b")), .producer (.reserve (letter "b")),
    .producer (.send (letter "b")), .producer (.confirm (letter "b")),
    .producer (.submit (letter "c")), .producer (.reserve (letter "c")),
    .producer (.submit (letter "d")), .producer (.reserve (letter "d")),
    .producer (.timeOut (letter "d")), .producer (.submit (letter "e")),
    .producer (.reserve (letter "e")), .producer (.abandon (letter "e")), .close,
    .producer (.submit (letter "f")), .producer (.answer (.error (.broker "away"))),
    .producer .report, .producer .take, .producer (.resume (letter "c")),
    .producer (.answer (.error (.broker "away"))), .record, .producer .report, .producer .drain,
    .producer (.send (letter "c")), .producer .take, .producer (.confirm (letter "c")),
    .producer (.answer (.ok ())), .producer .finish,
    .producer (.sinkClosed (.error (.unavailable "gone"))), .record, .producer .report, .record,
    .endDrain, .closeReturns, .close]

/-- In that run the three messages are handed over in order, and then the sink is closed. -/
theorem handed_in_order_crowded :
    ∃ st tr, exec Publisher.step crowded (Publisher.start ⟨0, 0, 50⟩ "file") = some (st, tr)
      ∧ (tr.filterMap handed? ++ st.producer.items).Nodup
      ∧ tr.filterMap sinkEvent?
        = [letter "a", letter "b", letter "c"].flatMap exchange ++ farewell := by
  obtain ⟨-, -, hnodup, -, hend⟩ := handed_in_order List.mem_cons_self
    (rfl : exec Publisher.step crowded (Publisher.start ⟨0, 0, 50⟩ "file") = some (_, _))
  exact ⟨_, _, rfl, hnodup (by decide), hend rfl⟩

end Publisher

end RecordRelay
