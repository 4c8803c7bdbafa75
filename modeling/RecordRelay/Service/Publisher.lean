import RecordRelay.Admission
import RecordRelay.Delivery.Session
import RecordRelay.Service.Gateway

/-!
# The service of the second hop

A record is taken at the root, by POST or by GET, and handed to a publisher. Every message gets an
identifier and an instant when it is handed in; where these come from is a parameter. Under
`/health` the service tells its topic, the kind of its sink and how many deliveries failed.
-/

namespace RecordRelay.Publishing

/-- The world of the second hop. -/
structure World (σ : Type) where
  /-- The publisher. -/
  session : Session σ
  /-- How many messages were handed in. -/
  issued : Nat

/-- What the second hop is set to. -/
structure Setup where
  /-- The key it asks for. -/
  key : String
  /-- The topic of its messages. -/
  topic : String
  /-- What the probe answers. -/
  probe : Except ProbeFault Unit
  /-- The identifier and the instant of the n-th message. -/
  stamp : Nat → MessageId × Instant

/-- Hands a message in. -/
def submit {σ : Type} (setup : Setup) (topic : String) (payload : Payload) (w : World σ) :
    Except Rejection MessageId × World σ :=
  let (id, submittedAt) := setup.stamp w.issued
  let (outcome, session) := w.session.publish ⟨id, topic, payload, submittedAt⟩ []
  let answer := match outcome with
    | .accepted => .ok id
    | .rejected why => .error why
    | .abandoned => .error .closed
  (answer, ⟨session, w.issued + 1⟩)

/-- The calls of the second hop: its own key, what the probe answers, and its publisher. -/
def ports {σ : Type} (setup : Setup) : Admission.Ports (World σ) where
  validate key w := (Credential.accepts setup.key key, w)
  probe w := (setup.probe, w)
  publish := submit setup

/-- Tells that the service is there. -/
def health (topic kind : String) (failures : Nat) : Http.Answer :=
  .json (jsonObject [("backend", Json.quote kind),
    ("delivery_failures", Bytes.ofString (toString failures)),
    ("service", Json.quote Hop.publisher.service), ("status", Json.quote "healthy"),
    ("topic", Json.quote topic), ("version", Json.quote version)])

/-- What the service tells of its publisher. -/
def page {σ : Type} (topic : String) (w : World σ) : Http.Answer :=
  health topic w.session.sink.kind w.session.state.ledger.count

/-- Takes a record. -/
def receive {σ : Type} (ports : Admission.Ports σ) (topic : String) (r : Http.Inbound) (w : σ) :
    Handled σ Http.Answer :=
  if Http.maxBody < r.body.length then ⟨.tooLarge, [], w⟩
  else
    let h := Admission.handle ports topic (r.header? "authorization") (r.header? "content-type")
      r.body w
    let answer := match h.result with
      | .ok _ => Http.Answer.empty .noContent
      | .error failure => failure.answer
    ⟨answer, h.events, h.world⟩

/-- **Answers a request**; `page` is what the service tells of its health. -/
def respond {σ : Type} (ports : Admission.Ports σ) (topic : String) (page : σ → Http.Answer)
    (r : Http.Inbound) (w : σ) : Handled σ Http.Answer :=
  let verb := Http.Verb.of r.method
  match r.path with
  | "/" =>
    match verb with
    | .get true =>
      let h := receive ports topic r w
      { h with result := h.result.withoutBody }
    | .get false | .post => receive ports topic r w
    | .other => ⟨.notAllowed "GET,HEAD,POST", [], w⟩
  | "/health" => ⟨verb.reading (page w), [], w⟩
  | "/metrics" => ⟨verb.reading metricsAnswer, [], w⟩
  | _ => ⟨.empty .notFound, [], w⟩

end RecordRelay.Publishing
