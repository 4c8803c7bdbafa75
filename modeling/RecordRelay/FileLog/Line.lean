import RecordRelay.Calendar.Timestamp
import RecordRelay.Delivery.Message
import RecordRelay.Text.Hex

/-!
# Lines of a log

A message is stored as one **line**: a JSON object with what is known about the message and, as a
text, what it carries. A payload that is UTF-8 is stored as it is, any other in hexadecimal, and the
line says which. All members of the object are required when a line is read; others are passed.
-/

namespace RecordRelay.FileLog

/-- A message **as it is stored**. -/
structure Line where
  /-- The identifier of the message. -/
  id : String
  /-- Its topic. -/
  topic : String
  /-- When it was handed in. -/
  submittedAt : Instant
  /-- When it was stored. -/
  appendedAt : Instant
  /-- The content type of its payload. -/
  contentType : String
  /-- How the payload is stored. -/
  encoding : String
  /-- The payload as it is stored. -/
  payload : String
  deriving DecidableEq, Repr

namespace Line

/-- The encoding of payloads that are stored as they are. -/
def plain : String := "utf8"

/-- The encoding of payloads that are stored in hexadecimal. -/
def hexadecimal : String := "hex"

/-- The line for a message that is stored `now`. -/
def ofSubmission (now : Instant) (s : Submission) : Line :=
  let (encoding, payload) := match Bytes.text? s.payload.bytes with
    | some text => (plain, text)
    | none => (hexadecimal, Text.hex s.payload.bytes)
  ⟨s.id.text, s.topic, s.submittedAt, now, s.payload.contentType, encoding, payload⟩

/-- **What the message carried**, if the line says how it is stored. -/
def body? (l : Line) : Option Bytes :=
  if l.encoding = plain then some (Bytes.ofString l.payload)
  else if l.encoding = hexadecimal then Text.unhex? l.payload
  else none

/-! ## Writing -/

/-- The members of a line with their values. -/
def members (l : Line) : List (String × String) :=
  [("id", l.id), ("topic", l.topic), ("submitted_at", l.submittedAt.text),
    ("appended_at", l.appendedAt.text), ("content_type", l.contentType),
    ("encoding", l.encoding), ("payload", l.payload)]

/-- A name and a text as a member of an object. -/
def member (m : String × String) : Bytes := Json.quote m.1 ++ Bytes.ofString ":" ++ Json.quote m.2

/-- A line as a JSON text. -/
def toJson (l : Line) : Bytes :=
  Bytes.ofString "\x7b" ++ (Bytes.ofString ",").intercalate (l.members.map member) ++
    Bytes.ofString "\x7d"

/-! ## Reading -/

/-- A line as far as a text has told it. -/
structure Told where
  /-- The identifier. -/
  id : Option String
  /-- The topic. -/
  topic : Option String
  /-- When the message was handed in. -/
  submittedAt : Option Instant
  /-- When it was stored. -/
  appendedAt : Option Instant
  /-- The content type. -/
  contentType : Option String
  /-- How the payload is stored. -/
  encoding : Option String
  /-- The payload. -/
  payload : Option String
  deriving DecidableEq, Repr

namespace Told

/-- Before anything was told. -/
def nothing : Told := ⟨none, none, none, none, none, none, none⟩

/-- Whether a member was told. -/
def has (t : Told) : String → Bool
  | "id" => t.id.isSome
  | "topic" => t.topic.isSome
  | "submitted_at" => t.submittedAt.isSome
  | "appended_at" => t.appendedAt.isSome
  | "content_type" => t.contentType.isSome
  | "encoding" => t.encoding.isSome
  | _ => t.payload.isSome

/-- The line that was told. What was not told is empty. -/
def line (t : Told) : Line where
  id := t.id.getD ""
  topic := t.topic.getD ""
  submittedAt := t.submittedAt.getD .epoch
  appendedAt := t.appendedAt.getD .epoch
  contentType := t.contentType.getD ""
  encoding := t.encoding.getD ""
  payload := t.payload.getD ""

end Told

/-- Reads a text. -/
def readText (c : Json.Cursor) : Except Json.Error (Json.Read String c) :=
  Json.readString "a string" c

/-- Reads a timestamp. -/
def readTime (c : Json.Cursor) : Except Json.Error (Json.Read Instant c) :=
  Json.readParsed "an RFC 3339 formatted date and time string"
    (fun s => (Instant.read? s).mapError Instant.Fault.message) c

/-- The names of a line's members, in order. -/
def names : List String :=
  ["id", "topic", "submitted_at", "appended_at", "content_type", "encoding", "payload"]

/-- The fields of a line in JSON. Each of them is required. -/
def jsonFields : Json.Fields Told where
  expected := "struct LogLine"
  names := names
  has := Told.has
  read name t c :=
    match name with
    | "id" => do return (← readText c).map fun s => { t with id := some s }
    | "topic" => do return (← readText c).map fun s => { t with topic := some s }
    | "submitted_at" => do return (← readTime c).map fun s => { t with submittedAt := some s }
    | "appended_at" => do return (← readTime c).map fun s => { t with appendedAt := some s }
    | "content_type" => do return (← readText c).map fun s => { t with contentType := some s }
    | "encoding" => do return (← readText c).map fun s => { t with encoding := some s }
    | _ => do return (← readText c).map fun s => { t with payload := some s }
  short length := some (.wrongLength length "struct LogLine with 7 elements")
  lacking t := (names.find? (!t.has ·)).map .missingField

/-- **Reads a line.** -/
def ofJson? (text : Bytes) : Except Json.Error Line := do
  return (← jsonFields.read? .nothing text).line

end Line

end RecordRelay.FileLog
