import RecordRelay.Forwarding
import RecordRelay.Http.Exchange
import RecordRelay.Json.Text
import RecordRelay.TokenBucket

/-!
# The service of the first hop

Under `/api` a record is taken by POST, and GET is a ping that a token bucket guards. Under
`/health` the service tells that it is there, under `/metrics` what was counted.
-/

namespace RecordRelay

/-- The members of a JSON object, in the order given. -/
def jsonObject (members : List (String × Bytes)) : Bytes :=
  0x7B :: (List.intersperse [0x2C] (members.map fun (name, value) =>
    Json.quote name ++ 0x3A :: value)).flatten ++ [0x7D]

/-- The counters, as they are published. -/
def metricsAnswer : Http.Answer where
  status := .ok
  contentType := some "text/plain; version=0.0.4"
  allow := none
  body := Bytes.ofString (String.join (Metrics.counterLines.map (· ++ "\n")))

/-- The answer that tells of a failure. -/
def Failure.answer (f : Failure) : Http.Answer := .text f.status f.message

/-- Where a page is only read: its answer to a request's method. -/
def Http.Verb.reading (verb : Http.Verb) (page : Http.Answer) : Http.Answer :=
  match verb with
  | .get bodyless => if bodyless then page.withoutBody else page
  | _ => .notAllowed "GET,HEAD"

namespace Gateway

/-- The world of the first hop: the bucket that guards its ping, and the world of its calls. -/
structure World (σ : Type) where
  /-- The bucket. -/
  bucket : TokenBucket Float
  /-- The world of the calls. -/
  calls : σ

/-- Tells that the service is there. -/
def health : Http.Answer :=
  .json (jsonObject [("service", Json.quote Hop.gateway.service),
    ("status", Json.quote "healthy"), ("version", Json.quote version)])

/-- Answers a ping at an instant. -/
def ping {σ : Type} (limits : Limits) (now : Int) (w : World σ) : Handled (World σ) Http.Answer :=
  match w.bucket.take limits now with
  | (true, bucket) => ⟨.text .ok "Testing Middleware", [], { w with bucket }⟩
  | (false, bucket) =>
    ⟨.text .tooManyRequests "rate limit exceeded", [.rateLimited], { w with bucket }⟩

/-- Takes a record. -/
def forward {σ : Type} (ports : Forwarding.Ports σ) (r : Http.Inbound) (w : World σ) :
    Handled (World σ) Http.Answer :=
  if Http.maxBody < r.body.length then ⟨.tooLarge, [], w⟩
  else
    let h := Forwarding.handle ports (r.header? "content-type") r.body w.calls
    let answer := match h.result with
      | .ok summary => Http.Answer.text .ok summary
      | .error failure => failure.answer
    ⟨answer, h.events, { w with calls := h.world }⟩

/-- **Answers a request** at an instant. -/
def respond {σ : Type} (ports : Forwarding.Ports σ) (limits : Limits) (now : Int)
    (r : Http.Inbound) (w : World σ) : Handled (World σ) Http.Answer :=
  let verb := Http.Verb.of r.method
  match r.path with
  | "/api" =>
    match verb with
    | .get bodyless =>
      let h := ping limits now w
      if bodyless then { h with result := h.result.withoutBody } else h
    | .post => forward ports r w
    | .other => ⟨.notAllowed "GET,HEAD,POST", [], w⟩
  | "/health" => ⟨verb.reading health, [], w⟩
  | "/metrics" => ⟨verb.reading metricsAnswer, [], w⟩
  | _ => ⟨.empty .notFound, [], w⟩

end Gateway

end RecordRelay
