import RecordRelay.Person
import RecordRelay.Text.Blank

/-!
# Payloads and their formats

A **payload** is a record in one of two formats. A request names the format of its body by a
content type; none at all means JSON. Reading a body gives a complete person or says why not, and
it says first what is wrong with the form of the body and only then which name is missing.
-/

namespace RecordRelay

/-- The formats of a record. -/
inductive Format where
  | json
  | protobuf
  deriving DecidableEq, Repr

/-- The content type under which a format is sent. -/
def Format.contentType : Format → String
  | json => "application/json"
  | protobuf => "application/x-protobuf"

/-- Why a body gives no complete record. -/
inductive DecodeError where
  /-- The body is no record in JSON. -/
  | json (error : Json.Error)
  /-- The body is no record in protobuf. -/
  | protobuf (error : Protobuf.Error)
  /-- A name is absent or empty. -/
  | missing (field : NameField)
  /-- The content type names no known format. -/
  | unsupported (contentType : String)
  deriving DecidableEq, Repr

/-- The words for a decoding error. -/
def DecodeError.message : DecodeError → String
  | json error => "malformed json: " ++ error.message
  | protobuf error => "malformed protobuf: " ++ error.message
  | missing field => "missing required field: " ++ field.label
  | unsupported contentType => "unsupported content type: " ++ contentType

/-- The part of a content type that names the format: what stands before the first semicolon,
without blanks at its ends and without regard to case. -/
def mediaType (header : String) : String :=
  String.ofList ((Text.trimList (header.toList.takeWhile (· ≠ ';'))).map Char.toLower)

/-- The **format that a content type names**. -/
def Format.ofContentType? : Option String → Except DecodeError Format
  | none => .ok .json
  | some header =>
    let base := mediaType header
    if base = "" ∨ base = "application/json" then .ok .json
    else if base = "application/x-protobuf" ∨ base = "application/protobuf" then .ok .protobuf
    else .error (.unsupported header)

/-- A record in one of its formats. -/
structure Payload where
  /-- The format. -/
  format : Format
  /-- The record in that format. -/
  bytes : Bytes
  deriving DecidableEq, Repr

namespace Payload

/-- The content type of a payload. -/
def contentType (p : Payload) : String := p.format.contentType

/-- The size of a payload. -/
def size (p : Payload) : Nat := p.bytes.length

end Payload

/-- A person **written** in a format. -/
def Person.encode (p : Person) : Format → Payload
  | .json => ⟨.json, p.toJson⟩
  | .protobuf => ⟨.protobuf, p.toWire⟩

/-- Reads a person, complete or not. -/
def Person.read? (bytes : Bytes) : Format → Except DecodeError Person
  | .json => (Person.ofJson? bytes).mapError .json
  | .protobuf => (Person.ofWire? bytes).mapError .protobuf

/-- **Reads a complete person** from a body. -/
def Person.decode (bytes : Bytes) (format : Format) : Except DecodeError Person := do
  let p ← Person.read? bytes format
  match p.missing? with
  | some field => throw (.missing field)
  | none => return p

/-- Reads a complete person from a body under the content type that came with it. -/
def Person.received (contentType : Option String) (body : Bytes) : Except DecodeError Person := do
  Person.decode body (← Format.ofContentType? contentType)

end RecordRelay
