import RecordRelay.Proofs.Text.Case
import RecordRelay.Proofs.Text.Pieces
import RecordRelay.Proofs.Toml.Given
import RecordRelay.Settings
import RecordRelay.Text.Blank

/-!
# The fields of the settings

There are twenty **fields** (`Settings.Field`), and settings are the same if all fields are
(`Settings.ext_field`). A field has a kind, which says what a value in a file tells it and what the
text of a variable means for it; it has a way to where it stands in a file; and about half of the
fields have a variable. One variable, the key, is that of two fields, since both hops have to agree
on it.

What a value tells and what a text means are said here without any reader: they are relations, and
that there is at most one thing that is told or meant is shown of them (`Kind.Told.unique`,
`Kind.Means.unique`).
-/

namespace RecordRelay.Settings

open Toml (Value Step)

/-! ## Kinds -/

/-- What kind of thing a field is. -/
inductive Kind where
  /-- A text, be it an address, a key or a path. -/
  | text
  /-- A number of sixteen bits. -/
  | port
  /-- A number of thirty-two bits. -/
  | middle
  /-- A number of sixty-four bits. -/
  | long
  /-- A number of thirty-two bits that may be negative. -/
  | signed
  /-- A backend. -/
  | backend
  /-- A list of texts. -/
  | texts
  deriving DecidableEq, Repr

namespace Kind

/-- The values of a kind. -/
abbrev Carrier : Kind → Type
  | text => String
  | port => UInt16
  | middle => UInt32
  | long => UInt64
  | signed => Int32
  | backend => Backend
  | texts => List String

/-- What a **value in a file tells** a field of a kind. A backend may also be written as a table
that has its name as the only key and nothing in it. -/
def Told : (k : Kind) → Value → k.Carrier → Prop
  | text, v, t => v = .string t
  | port, v, n => v = .integer n.toNat
  | middle, v, n => v = .integer n.toNat
  | long, v, n => v = .integer n.toNat
  | signed, v, n => v = .integer n.toInt
  | backend, v, b =>
    v = .string b.name
      ∨ ∃ origin content, v = .table origin [(b.name, content)] ∧ content.checkEmpty = .ok ()
  | texts, v, ts => v.elements? = some (ts.map .string)

/-- Whether a text is that of a **port**: between blanks there are digits, with a plus sign in front
or without, and they write its number. -/
def IsPort (text : String) (p : UInt16) : Prop :=
  ∃ digits, digits ≠ []
    ∧ (Text.trimList text.toList = digits ∨ Text.trimList text.toList = '+' :: digits)
    ∧ (∀ c ∈ digits, c.isDigit = true) ∧ Nat.ofDigitChars 10 digits 0 = p.toNat

/-- Whether a text **lists** texts: they are what stands between its commas, in order, without
blanks around them and without what is blank altogether. -/
def Lists (text : String) (ts : List String) : Prop :=
  ∃ pieces, pieces ≠ [] ∧ (∀ piece ∈ pieces, ',' ∉ piece)
    ∧ [','].intercalate pieces = text.toList
    ∧ ts = ((pieces.map Text.trimList).filter (· ≠ [])).map String.ofList

/-- What the **text of a variable means** for a field of a kind. Most kinds of numbers have no
variable, and there is nothing that a text means for them. -/
def Means : (k : Kind) → String → k.Carrier → Prop
  | text, value, t => t = value
  | port, value, p => IsPort value p
  | backend, value, b => Text.EqualUpToCase (Text.trimList value.toList) b.name.toList
  | texts, value, ts => Lists value ts
  | _, _, _ => False

end Kind

/-! ## Fields -/

/-- A **field** of the settings. -/
inductive Field where
  | gatewayPort
  | cacheUri
  | publisherUri
  | gatewayKey
  | gatewayTimeout
  | perSecond
  | burst
  | publisherPort
  | publisherKey
  | probeUri
  | publisherTimeout
  | backend
  | brokers
  | topic
  | logDir
  | partition
  | queueCapacity
  | errorBuffer
  | submitTimeout
  | logsDir
  deriving DecidableEq, Repr

namespace Field

/-- The kind of a field. -/
def kind : Field → Kind
  | gatewayPort | publisherPort => .port
  | perSecond | burst => .middle
  | gatewayTimeout | publisherTimeout | queueCapacity | errorBuffer | submitTimeout => .long
  | partition => .signed
  | backend => .backend
  | brokers => .texts
  | _ => .text

/-- What settings have in a field. -/
def get (s : Settings) : (x : Field) → x.kind.Carrier
  | gatewayPort => s.gateway.port
  | cacheUri => s.gateway.cacheUri
  | publisherUri => s.gateway.publisherUri
  | gatewayKey => s.gateway.apiKey
  | gatewayTimeout => s.gateway.timeoutSecs
  | perSecond => s.gateway.rateLimit.perSecond
  | burst => s.gateway.rateLimit.burst
  | publisherPort => s.publisher.port
  | publisherKey => s.publisher.apiKey
  | probeUri => s.publisher.probeUri
  | publisherTimeout => s.publisher.timeoutSecs
  | backend => s.log.backend
  | brokers => s.log.brokers
  | topic => s.log.topic
  | logDir => s.log.dir
  | partition => s.log.partition
  | queueCapacity => s.log.queueCapacity
  | errorBuffer => s.log.errorBuffer
  | submitTimeout => s.log.submitTimeoutMs
  | logsDir => s.logging.dir

/-- The way to a field in a file. -/
def way : Field → List Step
  | gatewayPort => [⟨"gateway", 0⟩, ⟨"port", 0⟩]
  | cacheUri => [⟨"gateway", 0⟩, ⟨"cache_uri", 1⟩]
  | publisherUri => [⟨"gateway", 0⟩, ⟨"publisher_uri", 2⟩]
  | gatewayKey => [⟨"gateway", 0⟩, ⟨"api_key", 3⟩]
  | gatewayTimeout => [⟨"gateway", 0⟩, ⟨"timeout_secs", 4⟩]
  | perSecond => [⟨"gateway", 0⟩, ⟨"rate_limit", 5⟩, ⟨"requests_per_sec", 0⟩]
  | burst => [⟨"gateway", 0⟩, ⟨"rate_limit", 5⟩, ⟨"burst", 1⟩]
  | publisherPort => [⟨"publisher", 1⟩, ⟨"port", 0⟩]
  | publisherKey => [⟨"publisher", 1⟩, ⟨"api_key", 1⟩]
  | probeUri => [⟨"publisher", 1⟩, ⟨"probe_uri", 2⟩]
  | publisherTimeout => [⟨"publisher", 1⟩, ⟨"timeout_secs", 3⟩]
  | backend => [⟨"log", 2⟩, ⟨"backend", 0⟩]
  | brokers => [⟨"log", 2⟩, ⟨"brokers", 1⟩]
  | topic => [⟨"log", 2⟩, ⟨"topic", 2⟩]
  | logDir => [⟨"log", 2⟩, ⟨"dir", 3⟩]
  | partition => [⟨"log", 2⟩, ⟨"partition", 4⟩]
  | queueCapacity => [⟨"log", 2⟩, ⟨"queue_capacity", 5⟩]
  | errorBuffer => [⟨"log", 2⟩, ⟨"error_buffer", 6⟩]
  | submitTimeout => [⟨"log", 2⟩, ⟨"submit_timeout_ms", 7⟩]
  | logsDir => [⟨"logging", 3⟩, ⟨"dir", 0⟩]

/-- The variable that overrides a field. -/
def override? : Field → Option String
  | gatewayPort => some "RELAY_GATEWAY_PORT"
  | cacheUri => some "RELAY_CACHE_URI"
  | publisherUri => some "RELAY_PUBLISHER_URI"
  | gatewayKey | publisherKey => some "RELAY_API_KEY"
  | publisherPort => some "RELAY_PUBLISHER_PORT"
  | probeUri => some "RELAY_PROBE_URI"
  | backend => some "RELAY_LOG_BACKEND"
  | brokers => some "RELAY_BROKERS"
  | topic => some "RELAY_TOPIC"
  | logDir => some "RELAY_LOG_DIR"
  | logsDir => some "RELAY_LOGS_DIR"
  | _ => none

end Field

/-- **Settings are their fields.** -/
theorem ext_field {s t : Settings} (h : ∀ x : Field, x.get s = x.get t) : s = t := by
  obtain ⟨⟨_, _, _, _, _, ⟨_, _⟩⟩, ⟨_, _, _, _⟩, ⟨_, _, _, _, _, _, _, _⟩, ⟨_⟩⟩ := s
  obtain ⟨⟨_, _, _, _, _, ⟨_, _⟩⟩, ⟨_, _, _, _⟩, ⟨_, _, _, _, _, _, _, _⟩, ⟨_⟩⟩ := t
  simp only [mk.injEq, GatewaySettings.mk.injEq, RateSettings.mk.injEq, PublisherSettings.mk.injEq,
    LogSettings.mk.injEq, LoggingSettings.mk.injEq]
  exact ⟨⟨h .gatewayPort, h .cacheUri, h .publisherUri, h .gatewayKey, h .gatewayTimeout,
      h .perSecond, h .burst⟩,
    ⟨h .publisherPort, h .publisherKey, h .probeUri, h .publisherTimeout⟩,
    ⟨h .backend, h .brokers, h .topic, h .logDir, h .partition, h .queueCapacity, h .errorBuffer,
      h .submitTimeout⟩, h .logsDir⟩

/-! ## At most one thing is told or meant -/

namespace Kind

/-- What stands between blanks, with a plus sign in front or without, is the same digits. -/
theorem digits_unique {text digits digits' : List Char} (hd : ∀ c ∈ digits, c.isDigit = true)
    (hd' : ∀ c ∈ digits', c.isDigit = true) (h : text = digits ∨ text = '+' :: digits)
    (h' : text = digits' ∨ text = '+' :: digits') : digits = digits' := by
  have hplus : ∀ {cs : List Char}, ¬ ∀ c ∈ '+' :: cs, c.isDigit = true := fun hcs =>
    absurd (hcs '+' List.mem_cons_self) (by decide)
  obtain rfl | rfl := h <;> obtain h' | h' := h'
  · exact h'
  · exact absurd hd (h' ▸ hplus)
  · exact absurd hd' (h' ▸ hplus)
  · exact (List.cons.inj h').2

theorem IsPort.unique {text : String} {p q : UInt16} (hp : IsPort text p) (hq : IsPort text q) :
    p = q := by
  obtain ⟨digits, -, htext, hdigits, hp⟩ := hp
  obtain ⟨digits', -, htext', hdigits', hq⟩ := hq
  rw [digits_unique hdigits hdigits' htext htext'] at hp
  exact UInt16.toNat_inj.mp (hp.symm.trans hq)

theorem Lists.unique {text : String} {ts us : List String} (hts : Lists text ts)
    (hus : Lists text us) : ts = us := by
  obtain ⟨pieces, hne, hmarks, htext, rfl⟩ := hts
  obtain ⟨pieces', hne', hmarks', htext', rfl⟩ := hus
  rw [← Text.splitOn_eq_iff.mpr ⟨hne, hmarks, htext⟩,
    ← Text.splitOn_eq_iff.mpr ⟨hne', hmarks', htext'⟩]

/-- Backends that are called the same in any case are the same. -/
theorem eq_of_equalUpToCase_name {text : List Char} {b c : Backend}
    (hb : Text.EqualUpToCase text b.name.toList) (hc : Text.EqualUpToCase text c.name.toList) :
    b = c := by
  have h := (Text.equalUpToCase_iff.mp hb).symm.trans (Text.equalUpToCase_iff.mp hc)
  cases b <;> cases c
  · rfl
  · exact absurd h (by decide)
  · exact absurd h (by decide)
  · rfl

theorem eq_of_name {b c : Backend} (h : b.name = c.name) : b = c :=
  eq_of_equalUpToCase_name (Text.EqualUpToCase.refl _) (h ▸ Text.EqualUpToCase.refl _)

/-- A backend is found under its name and under no other. -/
theorem lookup_named_iff {name : String} {b : Backend} :
    Backend.named.lookup name = some b ↔ name = b.name := by
  constructor
  · intro h
    have hmem : (name, b) ∈ Backend.named := Toml.Entries.mem_of_lookup h
    obtain h | h := List.mem_cons.mp hmem
    · cases h
      rfl
    · cases List.mem_singleton.mp h
      rfl
  · rintro rfl
    cases b <;> rfl

/-- **A text means one thing.** -/
theorem Means.unique {k : Kind} {value : String} {a b : k.Carrier} (ha : k.Means value a)
    (hb : k.Means value b) : a = b := by
  cases k with
  | text => exact ha.trans hb.symm
  | port => exact IsPort.unique ha hb
  | backend => exact eq_of_equalUpToCase_name ha hb
  | texts => exact Lists.unique ha hb
  | middle | long | signed => exact ha.elim

/-- **A value tells one thing.** -/
theorem Told.unique {k : Kind} {v : Value} {a b : k.Carrier} (ha : k.Told v a)
    (hb : k.Told v b) : a = b := by
  cases k with
  | text => exact Value.string.inj (ha.symm.trans hb)
  | port => exact UInt16.toNat_inj.mp (Int.ofNat.inj (Value.integer.inj (ha.symm.trans hb)))
  | middle => exact UInt32.toNat_inj.mp (Int.ofNat.inj (Value.integer.inj (ha.symm.trans hb)))
  | long => exact UInt64.toNat_inj.mp (Int.ofNat.inj (Value.integer.inj (ha.symm.trans hb)))
  | signed => exact Int32.toInt_inj.mp (Value.integer.inj (ha.symm.trans hb))
  | backend =>
    obtain ha | ⟨_, _, ha, -⟩ := ha <;> obtain hb | ⟨_, _, hb, -⟩ := hb
    · exact eq_of_name (Value.string.inj (ha.symm.trans hb))
    · exact nomatch ha.symm.trans hb
    · exact nomatch ha.symm.trans hb
    · obtain ⟨-, hentries⟩ := Value.table.inj (ha.symm.trans hb)
      exact eq_of_name (Prod.mk.inj (List.cons.inj hentries).1).1
  | texts =>
    have h := Option.some.inj (ha.symm.trans hb)
    exact List.map_injective_iff.mpr (fun _ _ => Value.string.inj) h

end Kind

end RecordRelay.Settings
