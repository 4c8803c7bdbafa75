import RecordRelay.Handled

/-!
# Forwarding

The first hop reads a record, asks for the current interval and forwards the record as protobuf.
The interval is only noted: whatever becomes of that question, the record is forwarded. Nothing is
asked and nothing forwarded unless the record is complete.
-/

namespace RecordRelay.Forwarding

/-- The **calls** of the first hop to others, in a world `σ`. -/
structure Ports (σ : Type) where
  /-- Asks for the current interval. -/
  interval : σ → Except FetchFault String × σ
  /-- Forwards a record: the status of the answer, if all went well. -/
  forward : Payload → σ → Except ForwardFault Http.Status × σ

/-- A call that was made. -/
inductive Call where
  | interval
  | forward (payload : Payload)
  deriving DecidableEq, Repr

/-- The same calls in a world that remembers them, oldest first. -/
def Ports.traced {σ : Type} (ports : Ports σ) : Ports (List Call × σ) where
  interval w :=
    let (answer, world) := ports.interval w.2
    (answer, w.1 ++ [.interval], world)
  forward payload w :=
    let (answer, world) := ports.forward payload w.2
    (answer, w.1 ++ [.forward payload], world)

/-- What the client is told when its record was forwarded. -/
def summary (status : Http.Status) : String := "got " ++ status.text ++ " from HTTP route"

/-- What is counted when the interval was asked for. -/
def noted : Except FetchFault String → List Metrics.Event
  | .ok _ => []
  | .error _ => [.intervalFailed]

/-- **Handles a request** of the first hop. -/
def handle {σ : Type} (ports : Ports σ) (contentType : Option String) (body : Bytes) (w : σ) :
    Handled σ (Except Failure String) :=
  match Person.received contentType body with
  | .error error => ⟨.error (.decode error), [.undecodable], w⟩
  | .ok person =>
    let (interval, w) := ports.interval w
    let payload := person.encode .protobuf
    match ports.forward payload w with
    | (.ok status, w) =>
      ⟨.ok (summary status), noted interval ++ [.forwarded payload.size], w⟩
    | (.error fault, w) => ⟨.error (.forward fault), noted interval ++ [.forwardFailed], w⟩

end RecordRelay.Forwarding
