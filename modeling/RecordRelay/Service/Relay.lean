import RecordRelay.Http.Call
import RecordRelay.Service.Publisher

/-!
# Both hops

What the first hop forwards arrives at the second: the method, the headers and the body as they were
sent, at the path of the address. The answer goes the other way with its status and its text.
-/

namespace RecordRelay

/-- A request as the service **receives** it. -/
def Http.Request.inbound (r : Http.Request) : Http.Inbound :=
  ⟨r.method, r.address.path, r.headers, r.body⟩

/-- An answer as the caller receives it. -/
def Http.Answer.response (a : Http.Answer) : Http.Response := ⟨a.status, Bytes.text? a.body⟩

namespace Relay

/-- What both hops are set to. -/
structure Setup where
  /-- What the cache service tells. -/
  interval : Except FetchFault String
  /-- The address of the second hop. -/
  address : String
  /-- The key that the first hop shows. -/
  key : String
  /-- Whether anybody listens at the address. -/
  reachable : Bool
  /-- What the second hop is set to. -/
  publishing : Publishing.Setup

/-- The second hop, as the first one leaves it. -/
structure World (σ : Type) where
  /-- The second hop. -/
  publishing : Publishing.World σ
  /-- What the second hop counted. -/
  events : List Metrics.Event

variable {σ : Type}

/-- **Asks the second hop.** -/
def ask (setup : Setup) (r : Http.Inbound) (w : World σ) : Http.Answer × World σ :=
  let topic := setup.publishing.topic
  let h := Publishing.respond (Publishing.ports setup.publishing) topic (Publishing.page topic) r
    w.publishing
  (h.result, ⟨h.world, w.events ++ h.events⟩)

/-- Forwards a record to the second hop. -/
def forward (setup : Setup) (payload : Payload) (w : World σ) :
    Except ForwardFault Http.Status × World σ :=
  match Http.forwardRequest setup.address setup.key payload with
  | .error fault => (.error (.transport fault), w)
  | .ok request =>
    if setup.reachable then
      let (answer, w) := ask setup request.inbound w
      (Http.readForward (.ok answer.response), w)
    else (.error (.transport (.unanswered request.address)), w)

/-- The calls of the first hop **when the second is at the other end**. -/
def ports (setup : Setup) : Forwarding.Ports (World σ) where
  interval w := (setup.interval, w)
  forward := forward setup

end Relay

end RecordRelay
