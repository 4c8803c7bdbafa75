import RecordRelay.Credential
import RecordRelay.Failure
import RecordRelay.Interval

/-!
# Calls to other services

Three services are called: the cache service for the interval, the second hop with a record, and
whatever is to be probed. A call is a request and a reading of its answer; between the two stands a
network. Only the second hop's status counts, and only the probe does not care what the answer is.
-/

namespace RecordRelay.Http

/-- The request for the **interval**. -/
def intervalRequest (address : String) : Except RequestFault Request :=
  Request.build "GET" address [] []

/-- What an answer says about the interval. -/
def readInterval (answer : Except RequestFault Response) : Except FetchFault String :=
  match answer with
  | .error fault => .error (.request fault)
  | .ok ⟨_, none⟩ => .error (.body .unreadable)
  | .ok ⟨_, some body⟩ =>
    match Interval.extract? body with
    | some interval => .ok interval
    | none => .error (.noMatch body)

/-- The request that **forwards** a record with a key. It is a GET with a body, which the second hop
takes as well as a POST. -/
def forwardRequest (address key : String) (payload : Payload) : Except RequestFault Request :=
  let type := Bytes.ofString Format.protobuf.contentType
  Request.build "GET" address
    [("content-type", type), ("accept", type),
      ("authorization", Bytes.ofString (Credential.header key))] payload.bytes

/-- What an answer says about a record that was forwarded. -/
def readForward (answer : Except RequestFault Response) : Except ForwardFault Status :=
  match answer with
  | .error fault => .error (.transport fault)
  | .ok ⟨status, body⟩ =>
    if status.isSuccess then .ok status else .error (.refused status (body.getD ""))

/-- The request that **probes** an address. -/
def probeRequest (address : String) : Except RequestFault Request :=
  Request.build "GET" address [] []

/-- What an answer says about the probe. -/
def readProbe (address : String) (answer : Except RequestFault Response) :
    Except ProbeFault Unit :=
  match answer with
  | .error fault => .error ⟨address, fault⟩
  | .ok _ => .ok ()

/-- Sends a request that may not have been built. -/
def Network.call (network : Network) (request : Except RequestFault Request) :
    Except RequestFault Response := do
  network.send (← request)

end RecordRelay.Http
