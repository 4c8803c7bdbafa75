import RecordRelay.Http.Request
import RecordRelay.IoFault
import RecordRelay.Payload
import RecordRelay.Toml.Fault

/-!
# Failures

What can go wrong on the way of a record, stage by stage. Every stage has faults of its own, and a
`Failure` is a fault with its stage. Its status is what the caller is told: a client's own fault is
a 4xx, another service's a 502, a queue without room a 503, and all else a 500.
-/

namespace RecordRelay

/-- Why the current interval is **not known**. -/
inductive FetchFault where
  /-- The cache service did not answer. -/
  | request (fault : Http.RequestFault)
  /-- Its answer broke off. -/
  | body (fault : Http.RequestFault)
  /-- Its answer holds no interval. -/
  | noMatch (answer : String)
  deriving DecidableEq, Repr

/-- The words for an unknown interval. -/
def FetchFault.message : FetchFault → String
  | request fault => "failed to get interval from cache service: " ++ fault.message
  | body fault => "failed to read cache service response body: " ++ fault.message
  | noMatch answer => "could not match time instance from response " ++ Text.quoted answer

/-- Why a record was **not forwarded**. -/
inductive ForwardFault where
  /-- The second hop did not answer. -/
  | transport (fault : Http.RequestFault)
  /-- The second hop refused it. -/
  | refused (status : Http.Status) (body : String)
  deriving DecidableEq, Repr

/-- The words for a record that was not forwarded. -/
def ForwardFault.message : ForwardFault → String
  | transport fault => "transport: " ++ fault.message
  | refused status body => "downstream answered " ++ toString status.code ++ ": " ++ body

/-- Why the **probe** failed. -/
structure ProbeFault where
  /-- The address that was probed. -/
  address : String
  /-- What happened. -/
  fault : Http.RequestFault
  deriving DecidableEq, Repr

/-- The words for a failed probe. -/
def ProbeFault.message (p : ProbeFault) : String :=
  "failed to get " ++ p.address ++ ": " ++ p.fault.message

/-- Why a message was **not accepted** into the send queue. -/
inductive Rejection where
  /-- The producer is closed. -/
  | closed
  /-- No slot came free in time. -/
  | queueFull (waitedMs : Nat)
  deriving DecidableEq, Repr

/-- The words for a rejection. -/
def Rejection.message : Rejection → String
  | closed => "producer is closed"
  | queueFull waitedMs =>
    "send queue full after waiting " ++ toString waitedMs ++ " ms"

/-- Why a **sink** failed. -/
inductive SinkFault where
  | io (fault : IoFault)
  | json (error : Json.Error)
  | broker (text : String)
  | unavailable (text : String)
  deriving DecidableEq, Repr

/-- The words for a sink's failure. -/
def SinkFault.message : SinkFault → String
  | io fault => "I/O error: " ++ fault.message
  | json error => "serialization failed: " ++ error.message
  | broker text => "broker error: " ++ text
  | unavailable text => "sink unavailable: " ++ text

/-- A **failure**: a fault with the stage it came from. -/
inductive Failure where
  | decode (error : DecodeError)
  | unauthorized
  | forward (fault : ForwardFault)
  | sideCall (fault : ProbeFault)
  | submit (rejection : Rejection)
  | settings (text : String)
  | sink (fault : SinkFault)
  | http (fault : Http.RequestFault)
  | toml (fault : Toml.Fault)
  | io (fault : IoFault)
  deriving DecidableEq, Repr

namespace Failure

/-- The words for a failure. -/
def message : Failure → String
  | decode error => "failed to decode request: " ++ error.message
  | unauthorized => "invalid or missing api key"
  | forward fault => "failed to perform http request with protobuf payload: " ++ fault.message
  | sideCall fault => "side call failed: " ++ fault.message
  | submit rejection => "failed to submit message: " ++ rejection.message
  | settings text => "Configuration error: " ++ text
  | sink fault => "log sink error: " ++ fault.message
  | http fault => "HTTP client error: " ++ fault.message
  | toml fault => "TOML deserialization failed: " ++ fault.message
  | io fault => "I/O error: " ++ fault.message

/-- What the caller is told. -/
def status : Failure → Http.Status
  | decode _ => .badRequest
  | unauthorized => .unauthorized
  | forward _ | sideCall _ => .badGateway
  | submit _ => .unavailable
  | _ => .internalError

/-- The causes behind a failure, from the nearest to the last. -/
def causes : Failure → List String
  | decode (.json error) =>
    [(DecodeError.json error).message, error.message]
  | decode (.protobuf error) => [(DecodeError.protobuf error).message, error.message]
  | decode error => [error.message]
  | unauthorized => []
  | forward (.transport fault) => [(ForwardFault.transport fault).message, fault.message]
  | forward fault => [fault.message]
  | sideCall fault => [fault.message, fault.fault.message]
  | submit rejection => [rejection.message]
  | settings _ => []
  | sink (.io fault) => [(SinkFault.io fault).message, fault.message]
  | sink (.json error) => [(SinkFault.json error).message, error.message]
  | sink fault => [fault.message]
  | http fault => [fault.message]
  | toml fault => [fault.message]
  | io fault => [fault.message]

/-- A failure in full: its own words, then those of its causes. -/
def inFull (f : Failure) : String := ": ".intercalate (f.message :: f.causes)

end Failure

end RecordRelay
