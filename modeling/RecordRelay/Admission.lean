import RecordRelay.Credential
import RecordRelay.Delivery.Message
import RecordRelay.Handled

/-!
# Admission to the log

The second hop admits a record to the message log in stages: the credential is checked, the record
is read, another service is probed, and the record is submitted as JSON. The first stage that fails
decides the answer, and no later stage is begun. In particular a caller without a valid key learns
nothing about the other stages.
-/

namespace RecordRelay.Admission

/-- The **calls** of the second hop to others, in a world `σ`. -/
structure Ports (σ : Type) where
  /-- Asks whether a key is valid. -/
  validate : String → σ → Bool × σ
  /-- Probes another service. -/
  probe : σ → Except ProbeFault Unit × σ
  /-- Submits a message under a topic. -/
  publish : String → Payload → σ → Except Rejection MessageId × σ

/-- A call that was made. -/
inductive Call where
  | validate (key : String)
  | probe
  | publish (topic : String) (payload : Payload)
  deriving DecidableEq, Repr

/-- The same calls in a world that remembers them, oldest first. -/
def Ports.traced {σ : Type} (ports : Ports σ) : Ports (List Call × σ) where
  validate key w :=
    let (answer, world) := ports.validate key w.2
    (answer, w.1 ++ [.validate key], world)
  probe w :=
    let (answer, world) := ports.probe w.2
    (answer, w.1 ++ [.probe], world)
  publish topic payload w :=
    let (answer, world) := ports.publish topic payload w.2
    (answer, w.1 ++ [.publish topic payload], world)

/-- Whether a request is authorized; a header without a key is not shown to anybody. -/
def authorize {σ : Type} (ports : Ports σ) (authorization : Option String) (w : σ) : Bool × σ :=
  match Credential.key? authorization with
  | some key => ports.validate key w
  | none => (false, w)

/-- **Handles a request** of the second hop, whose messages go to `topic`. -/
def handle {σ : Type} (ports : Ports σ) (topic : String) (authorization contentType : Option String)
    (body : Bytes) (w : σ) : Handled σ (Except Failure MessageId) :=
  match authorize ports authorization w with
  | (false, w) => ⟨.error .unauthorized, [.unauthorized], w⟩
  | (true, w) =>
    match Person.received contentType body with
    | .error error => ⟨.error (.decode error), [], w⟩
    | .ok person =>
      match ports.probe w with
      | (.error fault, w) => ⟨.error (.sideCall fault), [.probeFailed], w⟩
      | (.ok (), w) =>
        match ports.publish topic (person.encode .json) w with
        | (.ok id, w) => ⟨.ok id, [], w⟩
        | (.error rejection, w) => ⟨.error (.submit rejection), [], w⟩

end RecordRelay.Admission
