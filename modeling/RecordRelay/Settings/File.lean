import RecordRelay.Failure
import RecordRelay.Settings
import RecordRelay.Toml.Document
import RecordRelay.Toml.Typed

/-!
# The settings file

Settings are written in TOML, with one table for each part. What the file does not name keeps its
default, and names that mean nothing are passed over.
-/

namespace RecordRelay

open Toml (Member Value)

/-- A field that is a text. -/
def textField (name : String) (set : String → ρ → ρ) : Member ρ :=
  ⟨name, fun v r => do return set (← v.asText "a string") r⟩

/-- A field that is a path. -/
def pathField (name : String) (set : String → ρ → ρ) : Member ρ :=
  ⟨name, fun v r => do return set (← v.asText "path string") r⟩

/-- A range of whole numbers from zero on. -/
structure WordRange where
  /-- What a complaint calls it. -/
  label : String
  /-- The greatest of them. -/
  high : Int

/-- The numbers of sixteen bits. -/
def WordRange.short : WordRange := ⟨"u16", 65535⟩

/-- The numbers of thirty-two bits. -/
def WordRange.middle : WordRange := ⟨"u32", 4294967295⟩

/-- The numbers of sixty-four bits. -/
def WordRange.long : WordRange := ⟨"u64", 18446744073709551615⟩

/-- The numbers that count what memory holds. -/
def WordRange.size : WordRange := ⟨"usize", 18446744073709551615⟩

/-- A field that is a whole number in a range. -/
def wordField (name : String) (range : WordRange) (set : Nat → ρ → ρ) : Member ρ :=
  ⟨name, fun v r => do return set (← v.asInteger range.label 0 range.high).toNat r⟩

/-- A field that is a record of its own. -/
def recordField (name expected : String) (fields : List (Member τ)) (start : τ)
    (set : τ → ρ → ρ) : Member ρ :=
  ⟨name, fun v r => do return set (← Toml.readRecord expected fields start v) r⟩

/-- The fields of the rate limit. -/
def RateSettings.fields : List (Member RateSettings) :=
  [wordField "requests_per_sec" .middle fun n s => { s with perSecond := .ofNat n },
    wordField "burst" .middle fun n s => { s with burst := .ofNat n }]

/-- The fields of the first hop. -/
def GatewaySettings.fields : List (Member GatewaySettings) :=
  [wordField "port" .short fun n s => { s with port := .ofNat n },
    textField "cache_uri" fun t s => { s with cacheUri := t },
    textField "publisher_uri" fun t s => { s with publisherUri := t },
    textField "api_key" fun t s => { s with apiKey := t },
    wordField "timeout_secs" .long fun n s => { s with timeoutSecs := .ofNat n },
    recordField "rate_limit" "struct RateLimitConfig" RateSettings.fields {} fun l s =>
      { s with rateLimit := l }]

/-- The fields of the second hop. -/
def PublisherSettings.fields : List (Member PublisherSettings) :=
  [wordField "port" .short fun n s => { s with port := .ofNat n },
    textField "api_key" fun t s => { s with apiKey := t },
    textField "probe_uri" fun t s => { s with probeUri := t },
    wordField "timeout_secs" .long fun n s => { s with timeoutSecs := .ofNat n }]

/-- The fields of the message log. -/
def LogSettings.fields : List (Member LogSettings) :=
  [⟨"backend", fun v s => do return { s with backend := ← v.asName Backend.named }⟩,
    ⟨"brokers", fun v s => do return { s with brokers := ← v.asTexts }⟩,
    textField "topic" fun t s => { s with topic := t },
    pathField "dir" fun t s => { s with dir := t },
    ⟨"partition", fun v s => do
      return { s with partition := .ofInt (← v.asInteger "i32" (-2147483648) 2147483647) }⟩,
    wordField "queue_capacity" .size fun n s => { s with queueCapacity := .ofNat n },
    wordField "error_buffer" .size fun n s => { s with errorBuffer := .ofNat n },
    wordField "submit_timeout_ms" .long fun n s => { s with submitTimeoutMs := .ofNat n }]

/-- The fields of the services' own logs. -/
def LoggingSettings.fields : List (Member LoggingSettings) :=
  [pathField "dir" fun t s => { s with dir := t }]

namespace Settings

/-- The parts of the settings. -/
def fields : List (Member Settings) :=
  [recordField "gateway" "struct GatewayConfig" GatewaySettings.fields {} fun g s =>
      { s with gateway := g },
    recordField "publisher" "struct PublisherConfig" PublisherSettings.fields {} fun p s =>
      { s with publisher := p },
    recordField "log" "struct LogConfig" LogSettings.fields {} fun l s => { s with log := l },
    recordField "logging" "struct LoggingConfig" LoggingSettings.fields {} fun l s =>
      { s with logging := l }]

/-- The settings that a document gives. -/
def ofDocument (text : String) : Except Toml.Fault Settings := do
  Toml.readRecord "struct Config" fields {} (← Toml.readDocument text)

/-- What is said of a file that cannot be read. -/
def unreadable (path : String) (fault : IoFault) : Failure :=
  .settings ("Failed to read config file '" ++ path ++ "': " ++ fault.message)

/-- The **settings in a file**; `content` is what opening the file gives. -/
def ofFile (path : String) (content : Except IoFault Bytes) : Except Failure Settings :=
  match content with
  | .error fault => .error (unreadable path fault)
  | .ok bytes =>
    match Bytes.text? bytes with
    | none => .error (unreadable path .notText)
    | some text => (ofDocument text).mapError .toml

end Settings

end RecordRelay
