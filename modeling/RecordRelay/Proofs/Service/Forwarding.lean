import RecordRelay.Forwarding
import RecordRelay.Proofs.Delivery.Counters

/-!
# The interval is only noted

The first hop asks for the current interval before it forwards a record, and it forwards whatever
the answer was. To say that the answer has **no influence** takes two runs: let the question be
answered in two ways, with all else the same, and compare what comes of them
(`interval_only_noted`). The world may be changed by the question itself, which is asked in both
runs; only the answer differs.

What the runs have in common follows from one description of a run (`outcome_of_received`): what
goes back and which calls are made is decided by the body and by how forwarding ended, and the
answer about the interval shows in the events alone, as one of its own.
-/

namespace RecordRelay.Forwarding

variable {σ : Type}

/-- The same calls, where the question for the interval is answered **in this way**. -/
def Ports.telling (ports : Ports σ) (answer : Except FetchFault String) : Ports σ where
  interval w := (answer, (ports.interval w).2)
  forward := ports.forward

/-- What a body **leads to**, with the calls that were made on the way. -/
def outcome (ports : Ports σ) (contentType : Option String) (body : Bytes) (w : σ) :
    Handled (List Call × σ) (Except Failure String) :=
  handle ports.traced contentType body ([], w)

/-- What goes back once forwarding has ended. -/
def reply : Except ForwardFault Http.Status → Except Failure String
  | .ok status => .ok (summary status)
  | .error fault => .error (.forward fault)

/-- What is counted once forwarding has ended. -/
def tally (payload : Payload) : Except ForwardFault Http.Status → Metrics.Event
  | .ok _ => .forwarded payload.size
  | .error _ => .forwardFailed

/-- How **forwarding a record** ends. -/
def forwarded (ports : Ports σ) (p : Person) (w : σ) : Except ForwardFault Http.Status × σ :=
  ports.forward (p.encode .protobuf) (ports.interval w).2

variable {ports : Ports σ} {contentType : Option String} {body : Bytes} {w : σ}

/-- A body that is no record is refused, and **nothing is called**. -/
theorem outcome_of_received_error {e : DecodeError}
    (h : Person.received contentType body = .error e) :
    outcome ports contentType body w = ⟨.error (.decode e), [.undecodable], [], w⟩ := by
  unfold outcome handle
  rw [h]

/-- A record is forwarded, **once the interval was asked for**. -/
theorem outcome_of_received {p : Person} (h : Person.received contentType body = .ok p) :
    outcome ports contentType body w
      = ⟨reply (forwarded ports p w).1,
        noted (ports.interval w).1 ++ [tally (p.encode .protobuf) (forwarded ports p w).1],
        [.interval, .forward (p.encode .protobuf)], (forwarded ports p w).2⟩ := by
  obtain ⟨interval, forward⟩ := ports
  unfold outcome handle forwarded
  rw [h]
  dsimp only [Ports.traced]
  rcases forward (p.encode .protobuf) (interval w).2 with ⟨fault | status, w'⟩ <;> rfl

open Metrics Instrument

/-- A question that failed is counted **under its own name**, and nothing else is. -/
theorem moved_noted (answer : Except FetchFault String) (s : Series) :
    moved (noted answer) s
      = if s = intervalFetchFailures.value ∧ answer.toOption = none then 1 else 0 := by
  cases answer with
  | ok interval => simp [noted, moved, Except.toOption]
  | error fault => simp [noted, moved, Event.moves, Except.toOption, eq_comm]

/-- The counters that tell **how a body ended**. -/
def endings : List Instrument := [decodeFailures, forwardFailures, requestsForwarded]

/-- The one of them that belongs to a result. -/
def ending : Except Failure String → Instrument
  | .ok _ => requestsForwarded
  | .error (.decode _) => decodeFailures
  | .error _ => forwardFailures

/-- What is counted once forwarding has ended belongs to what goes back. -/
theorem moved_tally (payload : Payload) (x : Except ForwardFault Http.Status) {i : Instrument}
    (hi : i ∈ endings) :
    moved [tally payload x] i.value = if i = ending (reply x) then 1 else 0 := by
  simp only [endings, List.mem_cons, List.not_mem_nil, or_false] at hi
  cases x <;> obtain rfl | rfl | rfl := hi <;> rfl

/-- What goes back, from **what was read** of a body: what is no record is refused as such, and for
a record it tells how forwarding ended. -/
def resultFor (ports : Ports σ) (w : σ) : Except DecodeError Person → Except Failure String
  | .error e => .error (.decode e)
  | .ok p => reply (forwarded ports p w).1

/-- The status of what may go wrong: the fault is the client's, or it is that of the second hop. -/
def statusFor : Except DecodeError Person → Http.Status
  | .error _ => .badRequest
  | .ok _ => .badGateway

/-- The calls: for a record the interval is asked for once, and the record is forwarded once, as
protobuf; for all else there are none. -/
def callsFor : Except DecodeError Person → List Call
  | .error _ => []
  | .ok p => [.interval, .forward (p.encode .protobuf)]

/-- What is known of a body **once it was handled**. -/
structure Settled (ports : Ports σ) (w : σ) (read : Except DecodeError Person)
    (h : Handled (List Call × σ) (Except Failure String)) : Prop where
  /-- The result is that for what was read. -/
  result : h.result = resultFor ports w read
  /-- A failure has the status for what was read. -/
  status : ∀ f, h.result = .error f → f.status = statusFor read
  /-- So it is with the calls. -/
  calls : h.world.1 = callsFor read
  /-- One of the counters moves by one, that which belongs to the result, and the others do not. -/
  counted : ∀ i ∈ endings, moved h.events i.value = if i = ending h.result then 1 else 0
  /-- A question that failed is counted once, if it was asked. -/
  noted : moved h.events intervalFetchFailures.value
    = if .interval ∈ h.world.1 ∧ (ports.interval w).1.toOption = none then 1 else 0

/-- **Every body is settled** when it was handled. -/
theorem settled_outcome (ports : Ports σ) (contentType : Option String) (body : Bytes) (w : σ) :
    Settled ports w (Person.received contentType body) (outcome ports contentType body w) := by
  cases hread : Person.received contentType body with
  | error e =>
    rw [outcome_of_received_error hread]
    constructor
    case result => rfl
    case status =>
      rintro f hf
      cases hf
      rfl
    case calls => rfl
    case counted =>
      have hmoved : ∀ i ∈ endings,
          moved [.undecodable] i.value = if i = decodeFailures then 1 else 0 := by decide
      exact hmoved
    case noted => rfl
  | ok p =>
    rw [outcome_of_received hread]
    constructor
    case result => rfl
    case status =>
      intro f hf
      cases hforward : (forwarded ports p w).1 with
      | ok status =>
        rw [hforward] at hf
        cases hf
      | error fault =>
        rw [hforward] at hf
        cases hf
        rfl
    case calls => rfl
    case counted =>
      intro i hi
      have hne : i.value ≠ intervalFetchFailures.value := by
        rintro heq
        rw [show i = intervalFetchFailures from congrArg Series.instrument heq] at hi
        exact absurd hi (by decide)
      rw [moved_append, moved_noted, if_neg (fun h => hne h.1), Nat.zero_add]
      exact moved_tally _ _ hi
    case noted =>
      have hnone : moved [tally (p.encode .protobuf) (forwarded ports p w).1]
          intervalFetchFailures.value = 0 := by
        cases (forwarded ports p w).1 <;> rfl
      rw [moved_append, moved_noted, hnone]
      simp

/-- **The interval is only noted.** Whatever body comes in and however forwarding ends:

* two answers to the question for the interval lead to the same result, the same calls and the same
  world, and no series but that of the failed questions tells them apart;
* the question is asked and the record is forwarded once each, or nothing is called if there is no
  record;
* and one of three counters tells how it ended. -/
theorem interval_only_noted (ports : Ports σ) (contentType : Option String) (body : Bytes)
    (w : σ) :
    (∀ i j : Except FetchFault String,
      let h := outcome (ports.telling i) contentType body w
      let k := outcome (ports.telling j) contentType body w
      h.result = k.result ∧ h.world = k.world
        ∧ ∀ s, s ≠ intervalFetchFailures.value → moved h.events s = moved k.events s)
    ∧ Settled ports w (Person.received contentType body) (outcome ports contentType body w) := by
  refine ⟨fun i j => ?_, settled_outcome ports contentType body w⟩
  cases hread : Person.received contentType body with
  | error e =>
    rw [outcome_of_received_error hread, outcome_of_received_error hread]
    exact ⟨rfl, rfl, fun _ _ => rfl⟩
  | ok p =>
    rw [outcome_of_received hread, outcome_of_received hread]
    refine ⟨rfl, rfl, fun s hs => ?_⟩
    rw [moved_append, moved_append, moved_noted, moved_noted, if_neg (fun h => hs h.1),
      if_neg (fun h => hs h.1)]
    rfl

end RecordRelay.Forwarding
