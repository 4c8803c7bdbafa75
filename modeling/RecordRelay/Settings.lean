import RecordRelay.TokenBucket

/-!
# Settings

What both services can be told before they start: where they listen, whom they call, whose key they
ask for, and how messages are delivered. Everything has a default that suits a service on a
developer's machine.
-/

namespace RecordRelay

/-- Where messages are kept. -/
inductive Backend where
  /-- A directory of files. -/
  | file
  /-- A broker. -/
  | kafka
  deriving DecidableEq, Repr

/-- The name of a backend. -/
def Backend.name : Backend → String
  | file => "file"
  | kafka => "kafka"

/-- The backends by name. -/
def Backend.named : List (String × Backend) := [("file", .file), ("kafka", .kafka)]

/-- How often the guarded route may be called. -/
structure RateSettings where
  /-- The tokens gained in a second. -/
  perSecond : UInt32 := 50
  /-- The most tokens that the bucket holds. -/
  burst : UInt32 := 50
  deriving DecidableEq, Repr

/-- The limits that were set. -/
def RateSettings.limits (s : RateSettings) : Limits := ⟨s.perSecond.toNat, s.burst.toNat⟩

/-- The settings of the **first hop**. -/
structure GatewaySettings where
  /-- Where it listens. -/
  port : UInt16 := 50000
  /-- The cache service that knows the interval. -/
  cacheUri : String := "http://localhost:50007/"
  /-- The second hop. -/
  publisherUri : String := "http://localhost:50001"
  /-- The key that it shows to the second hop. -/
  apiKey : String := "123456"
  /-- How many seconds a call may take. -/
  timeoutSecs : UInt64 := 5
  /-- How often the guarded route may be called. -/
  rateLimit : RateSettings := {}
  deriving DecidableEq, Repr

/-- The settings of the **second hop**. -/
structure PublisherSettings where
  /-- Where it listens. -/
  port : UInt16 := 50001
  /-- The key that it asks for. -/
  apiKey : String := "123456"
  /-- What it probes before a message is published. -/
  probeUri : String := "https://www.google.com"
  /-- How many seconds a call may take. -/
  timeoutSecs : UInt64 := 5
  deriving DecidableEq, Repr

/-- The settings of the **message log**. -/
structure LogSettings where
  /-- Where messages are kept. -/
  backend : Backend := .file
  /-- The brokers, for a backend that has them. -/
  brokers : List String := ["localhost:9092"]
  /-- The topic of the messages. -/
  topic : String := "relay-topic"
  /-- The directory, for a backend of files. -/
  dir : String := "data/log"
  /-- The partition, for a backend that has them. -/
  partition : Int32 := 0
  /-- How many messages wait at most. -/
  queueCapacity : UInt64 := 1024
  /-- How many reports of failures wait at most. -/
  errorBuffer : UInt64 := 256
  /-- How many milliseconds a caller waits for room. -/
  submitTimeoutMs : UInt64 := 1000
  deriving DecidableEq, Repr

/-- The settings of the services' own logs. -/
structure LoggingSettings where
  /-- Their directory. -/
  dir : String := "logs"
  deriving DecidableEq, Repr

/-- **All settings.** -/
structure Settings where
  gateway : GatewaySettings := {}
  publisher : PublisherSettings := {}
  log : LogSettings := {}
  logging : LoggingSettings := {}
  deriving DecidableEq, Repr

end RecordRelay
