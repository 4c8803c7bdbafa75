/-!
# The two hops

A record passes two services. The gateway takes it from the client and forwards it, the publisher
takes it from the gateway and hands it to the message log.
-/

namespace RecordRelay

/-- The **two hops**. -/
inductive Hop where
  /-- The first hop, which forwards. -/
  | gateway
  /-- The second hop, which publishes. -/
  | publisher
  deriving DecidableEq, Repr

namespace Hop

/-- What a hop is called on the command line and in the names of metrics. -/
def name : Hop → String
  | gateway => "gateway"
  | publisher => "publisher"

/-- What a hop calls itself when it is asked for its health. -/
def service : Hop → String
  | gateway => "http-svc"
  | publisher => "http-sec-svc"

end Hop

/-- The version of both services. -/
def version : String := "0.1.0"

end RecordRelay
