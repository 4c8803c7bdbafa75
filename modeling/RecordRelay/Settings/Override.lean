import RecordRelay.Failure
import RecordRelay.Settings
import RecordRelay.Text.Blank
import RecordRelay.Text.Split

/-!
# Settings from the environment

A variable of the environment overrides one setting, and the key overrides it for both hops. The
variables are looked at in a fixed order; one with a value that makes no sense ends the work, and
what was overridden before it stays so.
-/

namespace RecordRelay

/-- Why a text is no port. -/
inductive PortFault where
  | empty
  | invalidDigit
  | tooLarge
  deriving DecidableEq, Repr

/-- The words for a text that is no port. -/
def PortFault.message : PortFault → String
  | empty => "cannot parse integer from empty string"
  | invalidDigit => "invalid digit found in string"
  | tooLarge => "number too large to fit in target type"

namespace Settings

/-- The greatest port. -/
def maxPort : Nat := 65535

/-- One more digit of a port. -/
def portDigit (port : Nat) (c : Char) : Except PortFault Nat :=
  if ¬ c.isDigit then .error .invalidDigit
  else if maxPort < 10 * port + (c.toNat - '0'.toNat) then .error .tooLarge
  else .ok (10 * port + (c.toNat - '0'.toNat))

/-- The **port** that a text writes, with blanks and a plus sign allowed in front. -/
def port (text : String) : Except PortFault UInt16 :=
  match Text.trimList text.toList with
  | [] => .error .empty
  | '+' :: c :: digits => UInt16.ofNat <$> (c :: digits).foldlM portDigit 0
  | digits => UInt16.ofNat <$> digits.foldlM portDigit 0

/-- The **brokers** that a text lists between commas, without those that are blank. -/
def brokers (text : String) : List String :=
  ((Text.splitOn ',' text.toList).map fun b => String.ofList (Text.trimList b)).filter (· ≠ "")

/-- A variable and what its value does to the settings. -/
structure Override where
  /-- The name of the variable. -/
  name : String
  /-- The settings with its value. -/
  apply : String → Settings → Except Failure Settings

/-- A variable whose value is a port. -/
def Override.port (name : String) (set : UInt16 → Settings → Settings) : Override :=
  ⟨name, fun value s =>
    match Settings.port value with
    | .ok p => .ok (set p s)
    | .error fault =>
      .error (.settings (name ++ ": invalid port '" ++ value ++ "': " ++ fault.message))⟩

/-- A variable whose value is taken as it is. -/
def Override.text (name : String) (set : String → Settings → Settings) : Override :=
  ⟨name, fun value s => .ok (set value s)⟩

/-- A variable whose value is the name of a backend, in any case and between blanks. -/
def Override.backend (name : String) : Override :=
  ⟨name, fun value s =>
    let lowered := String.ofList ((Text.trimList value.toList).map Char.toLower)
    match Backend.named.lookup lowered with
    | some b => .ok { s with log := { s.log with backend := b } }
    | none => .error (.settings (name ++ ": unknown log backend '" ++ lowered ++ "'"))⟩

/-- The **variables**, in the order in which they are looked at. -/
def overrides : List Override :=
  [.port "RELAY_GATEWAY_PORT" fun p s => { s with gateway := { s.gateway with port := p } },
    .text "RELAY_CACHE_URI" fun v s => { s with gateway := { s.gateway with cacheUri := v } },
    .text "RELAY_PUBLISHER_URI" fun v s =>
      { s with gateway := { s.gateway with publisherUri := v } },
    .text "RELAY_API_KEY" fun v s =>
      { s with
        gateway := { s.gateway with apiKey := v }
        publisher := { s.publisher with apiKey := v } },
    .port "RELAY_PUBLISHER_PORT" fun p s => { s with publisher := { s.publisher with port := p } },
    .text "RELAY_PROBE_URI" fun v s => { s with publisher := { s.publisher with probeUri := v } },
    .backend "RELAY_LOG_BACKEND",
    .text "RELAY_BROKERS" fun v s => { s with log := { s.log with brokers := brokers v } },
    .text "RELAY_TOPIC" fun v s => { s with log := { s.log with topic := v } },
    .text "RELAY_LOG_DIR" fun v s => { s with log := { s.log with dir := v } },
    .text "RELAY_LOGS_DIR" fun v s => { s with logging := { s.logging with dir := v } }]

/-- Applies variables in turn: the settings reached, and the failure that ended the work. -/
def override (lookup : String → Option String) :
    List Override → Settings → Settings × Except Failure Unit
  | [], s => (s, .ok ())
  | o :: more, s =>
    match lookup o.name with
    | none => override lookup more s
    | some value =>
      match o.apply value s with
      | .ok s => override lookup more s
      | .error failure => (s, .error failure)

/-- Applies **all variables** of an environment. -/
def withEnvironment (lookup : String → Option String) (s : Settings) :
    Settings × Except Failure Unit :=
  override lookup overrides s

end Settings

end RecordRelay
