import RecordRelay.Hop

/-!
# Metrics

What the two hops count. An `Instrument` is one published metric, an `Event` is something that
happened, and every event moves a fixed few instruments. The effect of an operation on the metrics
is therefore the list of its events.
-/

namespace RecordRelay.Metrics

/-- The two kinds of metrics. -/
inductive Kind where
  /-- A count that only rises. -/
  | counter
  /-- A distribution, with count and sum. -/
  | histogram
  deriving DecidableEq, Repr

/-- What a kind is called. -/
def Kind.name : Kind → String
  | counter => "counter"
  | histogram => "histogram"

/-- The **metrics** of both hops. -/
inductive Instrument where
  | requestsForwarded
  | forwardFailures
  | intervalFetchFailures
  | decodeFailures
  | rateLimited
  | forwardedBytes
  | forwardSeconds
  | messagesSubmitted
  | submitRejected
  | messagesDelivered
  | deliveryFailures
  | authRejected
  | probeFailures
  | submittedBytes
  deriving DecidableEq, Repr

namespace Instrument

/-- All metrics of the first hop. -/
def gateway : List Instrument :=
  [requestsForwarded, forwardFailures, intervalFetchFailures, decodeFailures, rateLimited,
    forwardedBytes, forwardSeconds]

/-- All metrics of the second hop. -/
def publisher : List Instrument :=
  [messagesSubmitted, submitRejected, messagesDelivered, deliveryFailures, authRejected,
    probeFailures, submittedBytes]

/-- All metrics, hop by hop. -/
def all : List Instrument := gateway ++ publisher

/-- The hop that a metric belongs to. -/
def hop (i : Instrument) : Hop := if i ∈ gateway then .gateway else .publisher

/-- The kind of a metric. -/
def kind : Instrument → Kind
  | forwardedBytes | forwardSeconds | submittedBytes => .histogram
  | _ => .counter

/-- What a metric counts, as one word. -/
def stem : Instrument → String
  | requestsForwarded => "requests_forwarded"
  | forwardFailures => "forward_failures"
  | intervalFetchFailures => "interval_fetch_failures"
  | decodeFailures => "decode_failures"
  | rateLimited => "rate_limited"
  | forwardedBytes => "payload_bytes"
  | forwardSeconds => "forward_duration_seconds"
  | messagesSubmitted => "messages_submitted"
  | submitRejected => "submit_rejected"
  | messagesDelivered => "messages_delivered"
  | deliveryFailures => "delivery_failures"
  | authRejected => "auth_rejected"
  | probeFailures => "probe_failures"
  | submittedBytes => "payload_bytes"

/-- The published **name** of a metric: counters end in `_total`. -/
def name (i : Instrument) : String :=
  "relay_" ++ i.hop.name ++ "_" ++ i.stem ++ (if i.kind = .counter then "_total" else "")

/-- What a metric means. -/
def help : Instrument → String
  | requestsForwarded => "Requests successfully forwarded to the publisher hop"
  | forwardFailures =>
    "Forward calls that failed in transport or returned a non-success status"
  | intervalFetchFailures =>
    "Interval lookups against the cache service that failed (non-fatal)"
  | decodeFailures => "Inbound payloads rejected as malformed or incomplete"
  | rateLimited => "Requests rejected by the rate limiter"
  | forwardedBytes => "Size of the protobuf payload forwarded downstream"
  | forwardSeconds => "Latency of the forward call to the publisher hop"
  | messagesSubmitted => "Messages accepted into the producer send queue"
  | submitRejected =>
    "Submissions rejected because the producer was closed or its queue stayed full"
  | messagesDelivered => "Messages the log sink acknowledged"
  | deliveryFailures => "Delivery failures observed by the drain task"
  | authRejected => "Requests rejected for a missing or wrong api key"
  | probeFailures => "Failed outbound probe calls (fatal to the request)"
  | submittedBytes => "Size of the JSON payload submitted to the log"

/-- No two metrics share a name. -/
theorem nodup_names : (all.map name).Nodup := by decide

end Instrument

/-- The metrics of a hop. -/
def instruments : Hop → List Instrument
  | .gateway => Instrument.gateway
  | .publisher => Instrument.publisher

/-- How many metrics are published under names of their own. -/
def registered : Nat := (Instrument.all.map Instrument.name).eraseDups.length

/-- The lines that announce the counters, in the order of their names. -/
def counterLines : List String :=
  ((Instrument.all.filter (·.kind = .counter)).map
    fun i => "# TYPE " ++ i.name ++ " counter").mergeSort (· ≤ ·)

/-- What can happen. -/
inductive Event where
  /-- A record of this many octets was forwarded. -/
  | forwarded (size : Nat)
  | forwardFailed
  | intervalFailed
  | undecodable
  | rateLimited
  /-- A message of this many octets entered the send queue. -/
  | submitted (size : Nat)
  | submitRejected
  | delivered
  | deliveryFailed
  | unauthorized
  | probeFailed
  deriving DecidableEq, Repr

/-- One value of one metric: a count, or a sum. -/
structure Series where
  /-- The metric. -/
  instrument : Instrument
  /-- What is appended to its name. -/
  suffix : String
  deriving DecidableEq, Repr

/-- The name of a series. -/
def Series.name (s : Series) : String := s.instrument.name ++ s.suffix

/-- The value of a counter. -/
def Instrument.value (i : Instrument) : Series := ⟨i, ""⟩

/-- The number of observations in a histogram. -/
def Instrument.count (i : Instrument) : Series := ⟨i, "_count"⟩

/-- The sum of the observations in a histogram. -/
def Instrument.sum (i : Instrument) : Series := ⟨i, "_sum"⟩

open Instrument in
/-- Which series an event **moves, and how far**. The time a forward call takes is counted, but
not summed up here. -/
def Event.moves : Event → List (Series × Nat)
  | .forwarded size =>
    [(requestsForwarded.value, 1), (forwardedBytes.count, 1), (forwardedBytes.sum, size),
      (forwardSeconds.count, 1)]
  | .forwardFailed => [(forwardFailures.value, 1)]
  | .intervalFailed => [(intervalFetchFailures.value, 1)]
  | .undecodable => [(decodeFailures.value, 1)]
  | .rateLimited => [(Instrument.rateLimited.value, 1)]
  | .submitted size =>
    [(messagesSubmitted.value, 1), (submittedBytes.count, 1), (submittedBytes.sum, size)]
  | .submitRejected => [(Instrument.submitRejected.value, 1)]
  | .delivered => [(messagesDelivered.value, 1)]
  | .deliveryFailed => [(deliveryFailures.value, 1)]
  | .unauthorized => [(authRejected.value, 1)]
  | .probeFailed => [(probeFailures.value, 1)]

/-- How far a list of events moves a series. -/
def moved (events : List Event) (s : Series) : Nat :=
  (events.flatMap Event.moves).foldl (fun n (t, k) => if t = s then n + k else n) 0

open Instrument in
/-- All series. -/
def series : List Series :=
  all.flatMap fun i =>
    match i.kind with
    | .counter => [i.value]
    | .histogram => if i = forwardSeconds then [i.count] else [i.count, i.sum]

/-- The series that a list of events **changes**, with the differences. -/
def changes (events : List Event) : List (String × Nat) :=
  (series.map fun s => (s.name, moved events s)).filter (·.2 ≠ 0)

end RecordRelay.Metrics
