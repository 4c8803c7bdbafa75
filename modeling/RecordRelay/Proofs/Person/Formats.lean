import RecordRelay.Payload
import RecordRelay.Proofs.Json.Object
import RecordRelay.Proofs.Json.Taken
import RecordRelay.Proofs.Person.RoundTrip
import RecordRelay.Proofs.Protobuf.Passed

/-!
# A record is not taken for one in the other format

A body says nothing about its own format, so a body may be read in the wrong one, and most of its
octets are whatever somebody chose for a name. Two octets that nobody can choose keep the formats
apart.

* A person in JSON is written **without controls**, for the controls of a name are escaped. A reader
  of protobuf takes its brace for the start of a group; but wherever it finds a field, the number
  of that field is at least four, and a name has number one or two.
* A person with a last name is written in protobuf with the octet `0x12`, the key of that name. No
  JSON text has it, be it in a string, among the spaces or in what is skipped.

The last name is needed: see the example at the end.
-/

namespace RecordRelay.Person

open Json Protobuf

/-! ## JSON under protobuf -/

/-- A person is written in JSON **without controls**. -/
theorem noControl_toJson (p : Person) : Bytes.NoControl p.toJson := by
  rw [toJson_eq_object]
  exact noControl_object _

/-- Reading a JSON text as protobuf fails, or **gives nobody**. -/
theorem ofWire?_toJson (p : Person) :
    ofWire? p.toJson = .ok unnamed ∨ ∃ e, ofWire? p.toJson = .error e := by
  cases h : ofWire? p.toJson with
  | error e => exact .inr ⟨e, rfl⟩
  | ok q =>
    rw [mergeWire_of_noControl p.noControl_toJson h]
    exact .inl rfl

/-- So the body is refused: its form is no protobuf, or the first name is missing. -/
theorem decode_toJson (p : Person) :
    decode p.toJson .protobuf = .error (.missing .first)
      ∨ ∃ e, decode p.toJson .protobuf = .error (.protobuf e) := by
  unfold decode read?
  obtain h | ⟨e, h⟩ := p.ofWire?_toJson
  · rw [h]
    exact .inl rfl
  · rw [h]
    exact .inr ⟨e, rfl⟩

/-! ## Protobuf under JSON -/

/-- A last name brings **the octet `0x12`** along. -/
theorem mem_toWire {p : Person} (h : p.lastname ≠ "") : 0x12 ∈ p.toWire := by
  have hkey : (0x12 : UInt8) ∈ Key.encode ⟨NameField.last.number, .lengthDelimited⟩ := by
    rw [Key.encode, Varint.encode]
    decide
  unfold toWire wireField
  rw [if_neg h]
  exact List.mem_append_right _ (List.mem_append_left _ (List.mem_append_left _ hkey))

/-- A text that gives a person has **allowed octets only**. -/
theorem isAllowed_of_ofJson? {p : Person} {body : Bytes} (h : ofJson? body = .ok p) :
    ∀ b ∈ body, isAllowed b = true := by
  obtain ⟨told, htold, -⟩ := exists_of_bind_eq_ok h
  refine isAllowed_of_read? htold fun {name told c r} hread => ?_
  obtain ⟨s, hs, hread⟩ := exists_of_bind_eq_ok hread
  obtain rfl := Except.ok.inj hread
  exact (took_readString hs).1

/-- So a body with a last name is refused for its form. -/
theorem decode_toWire {p : Person} (h : p.lastname ≠ "") :
    ∃ e, decode p.toWire .json = .error (.json e) := by
  cases hread : ofJson? p.toWire with
  | error e =>
    refine ⟨e, ?_⟩
    unfold decode read?
    rw [hread]
    rfl
  | ok q => exact absurd (isAllowed_of_ofJson? hread 0x12 (mem_toWire h)) (by decide)

/-! ## Either under the other -/

/-- **No record is taken for one in the other format.** A complete person who is written in a format
and read in another is refused, whatever the names are. Under protobuf, a person in JSON is refused
for the form or for want of a first name; under JSON, a person in protobuf is refused for the form.
Of the two names it takes only the last for the latter, and none for the former. -/
theorem decode_encode_of_ne :
    (∀ (p : Person) (f g : Format), p.firstname ≠ "" → p.lastname ≠ "" → f ≠ g →
      ∃ e, decode (p.encode f).bytes g = .error e)
    ∧ (∀ p : Person, decode (p.encode .json).bytes .protobuf = .error (.missing .first)
      ∨ ∃ e, decode (p.encode .json).bytes .protobuf = .error (.protobuf e))
    ∧ ∀ p : Person, p.lastname ≠ "" →
      ∃ e, decode (p.encode .protobuf).bytes .json = .error (.json e) := by
  refine ⟨fun p f g _ hlast hne => ?_, decode_toJson, fun p => decode_toWire⟩
  cases f <;> cases g
  case json.json | protobuf.protobuf => exact absurd rfl hne
  case json.protobuf =>
    obtain h | ⟨e, h⟩ := p.decode_toJson
    · exact ⟨_, h⟩
    · exact ⟨_, h⟩
  case protobuf.json =>
    obtain ⟨e, h⟩ := decode_toWire hlast
    exact ⟨_, h⟩

/-- Names that were made to look like the other format: the first is a whole record in JSON, of
thirty-two octets so that key and length are spaces before it, and the last is a message. -/
theorem decode_encode_of_ne_crafted :
    (∃ e, decode ((⟨"\x7b\"firstname\":\"A\",\"lastname\":\"B\"\x7d", "\n\u0001A\u0012\u0001L"⟩ :
      Person).encode .protobuf).bytes .json = .error e)
    ∧ (∃ e, decode ((⟨"\x7b\"firstname\":\"A\",\"lastname\":\"B\"\x7d", "\n\u0001A\u0012\u0001L"⟩ :
      Person).encode .json).bytes .protobuf = .error e)
    ∧ ∃ e, decode ((⟨"", "\n\u0001A\u0012\u0001L"⟩ : Person).encode .protobuf).bytes .json
      = .error (.json e) :=
  ⟨decode_encode_of_ne.1 _ .protobuf .json (by decide) (by decide) (by decide),
    decode_encode_of_ne.1 _ .json .protobuf (by decide) (by decide) (by decide),
    decode_encode_of_ne.2.2 _ (by decide)⟩

/-- Without a last name the same first name is taken for the record that it spells. -/
example : decode ((⟨"\x7b\"firstname\":\"A\",\"lastname\":\"B\"\x7d", ""⟩ :
    Person).encode .protobuf).bytes .json = .ok ⟨"A", "B"⟩ :=
  eq_ok_of_toOption (by decide +kernel)

end RecordRelay.Person
