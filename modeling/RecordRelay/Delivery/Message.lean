import RecordRelay.Calendar.Instant
import RecordRelay.Payload

/-!
# Messages

A **submission** is a message on its way to the log: an identifier, a topic, a payload, and the
instant at which it was handed in. Identifiers are chosen by whoever submits. A message that a sink
did not take becomes an `Undelivered` report, which keeps identifier and topic and gives the reason.
-/

namespace RecordRelay

/-- What a message is called. -/
structure MessageId where
  /-- The identifier as text. -/
  text : String
  deriving DecidableEq, Repr

/-- A **message** on its way to the log. -/
structure Submission where
  /-- Its identifier. -/
  id : MessageId
  /-- The topic it belongs to. -/
  topic : String
  /-- What it carries. -/
  payload : Payload
  /-- When it was handed in. -/
  submittedAt : Instant
  deriving DecidableEq, Repr

/-- The report of a **failed delivery**. -/
structure Undelivered where
  /-- The message, or none if it was the sink's own closing that failed. -/
  id : Option MessageId
  /-- The topic of the message. -/
  topic : String
  /-- Why it was not delivered. -/
  reason : String
  deriving DecidableEq, Repr

end RecordRelay
