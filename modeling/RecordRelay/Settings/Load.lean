import RecordRelay.Settings.File
import RecordRelay.Settings.Override

/-!
# Loading the settings

Settings come in three layers: the defaults, over them the file, over it the environment. What
comes out is checked as a whole, so that a setting that makes no sense in the file does no harm
when the environment overrides it.
-/

namespace RecordRelay.Settings

/-- **Checks** settings as a whole. -/
def check (s : Settings) : Except Failure Unit :=
  if Text.trimList s.log.topic.toList = [] then
    .error (.settings "log.topic must not be empty")
  else if s.log.backend = .kafka ∧ s.log.brokers = [] then
    .error (.settings "log.brokers must list at least one broker")
  else if s.log.queueCapacity = 0 ∨ s.log.errorBuffer = 0 then
    .error (.settings "log.queue_capacity and log.error_buffer must be positive")
  else if s.gateway.timeoutSecs = 0 ∨ s.publisher.timeoutSecs = 0 then
    .error (.settings "gateway.timeout_secs and publisher.timeout_secs must be positive")
  else if s.gateway.rateLimit.perSecond = 0 ∨ s.gateway.rateLimit.burst = 0 then
    .error (.settings "gateway.rate_limit values must be positive")
  else .ok ()

/-- **Loads** the settings: from a file if its path is given with what opening it gives, then from
the environment. -/
def load (file : Option (String × Except IoFault Bytes)) (lookup : String → Option String) :
    Except Failure Settings := do
  let s ← match file with
    | some (path, content) => ofFile path content
    | none => .ok {}
  let (s, overridden) := s.withEnvironment lookup
  overridden
  s.check
  .ok s

end RecordRelay.Settings
