import RecordRelay.Payload
import RecordRelay.Proofs.Json.Object
import RecordRelay.Proofs.Json.Taken
import RecordRelay.Proofs.Protobuf.Shortest

/-!
# Decoding undoes encoding

A person who is written in a format and read in the same format is **the same person**, whatever
characters the names are made of. A person without one of the names can be written as well; reading
then tells which name is missing, and never that the form of the body is at fault.

So a record that was accepted once can be handed on in either format as often as one likes. For this
its names have to be counted in 64 bits again when they are written as protobuf. They always are,
since no name is longer than the body it came from (`counted_of_decode`).
-/

namespace RecordRelay

namespace Person

open Json Protobuf

/-! ## JSON -/

/-- A person in JSON is an object of two strings. -/
theorem toJson_eq_object (p : Person) :
    p.toJson = object [("firstname", p.firstname), ("lastname", p.lastname)] := by
  have hfirst : Bytes.ofString "\x7b\"firstname\":" = 0x7B :: (quote "firstname" ++ [0x3A]) := by
    decide
  have hlast : Bytes.ofString ",\"lastname\":" = 0x2C :: (quote "lastname" ++ [0x3A]) := by decide
  have hclose : Bytes.ofString "\x7d" = [0x7D] := by decide
  rw [toJson, hfirst, hlast, hclose, object, furtherMembers, List.flatMap_singleton, member, member]
  simp only [List.cons_append, List.append_assoc, List.nil_append]

/-- The string behind a name becomes that name. -/
theorem read_jsonFields {c : Cursor} {rest : Bytes} {told : Partial} {s : String} (name : String)
    (h : c.rest = quote s ++ rest) :
    Gives (jsonFields.read name told c)
      (if name = "firstname" then { told with first := some s } else { told with last := some s })
      rest :=
  (readString_quote "a string" h).map _

/-- The object fills a person with both names. -/
theorem filled_jsonFields (p : Person) :
    Filled jsonFields .empty [("firstname", p.firstname), ("lastname", p.lastname)]
      ⟨some p.firstname, some p.lastname⟩ := by
  refine .cons (t := ⟨some p.firstname, none⟩) ⟨rfl, rfl, fun c rest hc => ?_⟩
    (.cons ⟨rfl, rfl, fun c rest hc => ?_⟩ (.nil _))
  · exact read_jsonFields "firstname" hc
  · exact read_jsonFields "lastname" hc

/-- **A person reads back** from JSON, complete or not. -/
theorem ofJson?_toJson (p : Person) : ofJson? p.toJson = .ok p := by
  unfold ofJson?
  rw [toJson_eq_object, read?_object (filled_jsonFields p) rfl]
  rfl

/-! ## Both formats -/

/-- **A person reads back** from either format, complete or not. -/
theorem read?_encode {p : Person} {f : Format} (h : f = .protobuf → p.Counted) :
    read? (p.encode f).bytes f = .ok p := by
  cases f with
  | json => exact congrArg (Except.mapError DecodeError.json) (ofJson?_toJson p)
  | protobuf => exact congrArg (Except.mapError DecodeError.protobuf) (ofWire?_toWire (h rfl))

/-- What is read is taken if it is complete; else it is told which name is missing. -/
theorem decode_of_read? {p : Person} {body : Bytes} {f : Format} (h : read? body f = .ok p) :
    decode body f
      = if p.firstname = "" then .error (.missing .first)
        else if p.lastname = "" then .error (.missing .last)
        else .ok p := by
  unfold decode
  rw [h]
  by_cases hfirst : p.firstname = ""
  · have hmissing : p.missing? = some .first := if_pos hfirst
    rw [if_pos hfirst]
    simp only [bind, Except.bind, hmissing]
    rfl
  · rw [if_neg hfirst]
    by_cases hlast : p.lastname = ""
    · have hmissing : p.missing? = some .last := (if_neg hfirst).trans (if_pos hlast)
      rw [if_pos hlast]
      simp only [bind, Except.bind, hmissing]
      rfl
    · have hmissing : p.missing? = none := (if_neg hfirst).trans (if_neg hlast)
      rw [if_neg hlast]
      simp only [bind, Except.bind, hmissing]
      rfl

/-- What is decoded was read, and both names are there. -/
theorem decode_eq_ok_iff {p : Person} {body : Bytes} {f : Format} :
    decode body f = .ok p ↔ read? body f = .ok p ∧ p.firstname ≠ "" ∧ p.lastname ≠ "" := by
  constructor
  · intro h
    obtain ⟨q, hq, hmissing⟩ := exists_of_bind_eq_ok h
    split at hmissing
    · cases hmissing
    · next hnone =>
      cases hmissing
      exact ⟨hq, p.missing?_eq_none_iff.mp hnone⟩
  · rintro ⟨h, hfirst, hlast⟩
    rw [decode_of_read? h, if_neg hfirst, if_neg hlast]

/-! ## Names are no longer than their body -/

/-- The octets of both names. -/
def nameOctets (p : Person) : Nat :=
  (Bytes.ofString p.firstname).length + (Bytes.ofString p.lastname).length

/-- Names that have few octets together have few each. -/
theorem counted_of_nameOctets_lt {p : Person} (h : p.nameOctets < 2 ^ 64) : p.Counted := by
  unfold nameOctets at h
  intro field
  cases field <;> simp only [name] <;> omega

/-- A name that is told adds its own octets, and what it replaces is gone. -/
theorem nameOctets_told (told : Partial) (name s : String) :
    (if name = "firstname" then { told with first := some s }
      else { told with last := some s }).complete.nameOctets
      ≤ told.complete.nameOctets + (Bytes.ofString s).length := by
  unfold nameOctets Partial.complete
  split
  · simp only [Option.getD_some]
    omega
  · simp only [Option.getD_some]
    omega

/-- A person has no more octets in names than the JSON text. -/
theorem nameOctets_le_of_ofJson? {p : Person} {body : Bytes} (h : ofJson? body = .ok p) :
    p.nameOctets ≤ body.length := by
  obtain ⟨told, htold, h⟩ := exists_of_bind_eq_ok h
  obtain rfl := Except.ok.inj h
  have hle := weight_read? (fun told : Partial => told.complete.nameOctets) htold ?_
  · rwa [show (Partial.complete .empty).nameOctets = 0 from rfl, Nat.zero_add] at hle
  · intro name told c r hread
    obtain ⟨s, hs, hread⟩ := exists_of_bind_eq_ok hread
    obtain rfl := Except.ok.inj hread
    have hlength := (took_readString hs).2
    have htold := nameOctets_told told name s.value
    show (Partial.complete (if name = "firstname" then _ else _)).nameOctets + s.left.rest.length
      ≤ told.complete.nameOctets + c.rest.length
    omega

/-- A person has no more octets in names than **on the wire**. -/
theorem nameOctets_le_length_toWire (p : Person) : p.nameOctets ≤ p.toWire.length := by
  have hfield (field : NameField) (s : String) :
      (Bytes.ofString s).length ≤ (wireField field s).length := by
    rw [length_wireField]
    split
    · next hempty =>
      rw [hempty]
      exact Nat.le_refl 0
    · omega
  rw [length_toWire]
  exact Nat.add_le_add (hfield _ _) (hfield _ _)

/-- **The names of a record that was accepted are counted** in 64 bits if its body is. -/
theorem counted_of_decode {p : Person} {body : Bytes} {f : Format} (h : decode body f = .ok p)
    (hbody : body.length < 2 ^ 64) : p.Counted := by
  refine counted_of_nameOctets_lt (Nat.lt_of_le_of_lt ?_ hbody)
  have hread := (decode_eq_ok_iff.mp h).1
  cases f with
  | json => exact nameOctets_le_of_ofJson? (eq_ok_of_mapError_eq_ok hread)
  | protobuf =>
    have hle := length_toWire_le_of_ofWire? (eq_ok_of_mapError_eq_ok hread)
    exact Nat.le_trans p.nameOctets_le_length_toWire hle

/-! ## Decoding undoes encoding -/

/-- **Decoding undoes encoding.** What is encoded in a format and decoded in the same format is the
same person, if both names are there, and else the complaint about the first one that is not; never
is it a complaint about the form. And a record that was accepted in one format may be encoded in
either: decoding that gives the same record.

Protobuf counts octets in 64 bits. That the octets of a name, or of a body, can be counted so is all
that is asked of them, and nothing at all is asked for JSON. -/
theorem decode_encode :
    (∀ (p : Person) (f : Format), (f = .protobuf → p.Counted) →
      decode (p.encode f).bytes f
        = if p.firstname = "" then .error (.missing .first)
          else if p.lastname = "" then .error (.missing .last)
          else .ok p)
    ∧ ∀ (body : Bytes) (f g : Format) (p : Person), (g = .protobuf → body.length < 2 ^ 64) →
      decode body f = .ok p → decode (p.encode g).bytes g = .ok p := by
  constructor
  · intro p f hcounted
    exact decode_of_read? (read?_encode hcounted)
  · intro body f g p hbody h
    have hcounted : g = .protobuf → p.Counted := fun hg => counted_of_decode h (hbody hg)
    exact decode_eq_ok_iff.mpr ⟨read?_encode hcounted, (decode_eq_ok_iff.mp h).2⟩

/-- Names of all kinds of characters, a name that is missing, and a record that came as an array and
goes on as protobuf. -/
theorem decode_encode_mixed :
    (⟨"\"\\\n\u0001", "é\u2028😀"⟩ : Person).Counted
    ∧ decode ((⟨"\"\\\n\u0001", "é\u2028😀"⟩ : Person).encode .protobuf).bytes .protobuf
      = .ok ⟨"\"\\\n\u0001", "é\u2028😀"⟩
    ∧ decode ((⟨"\"\\\n\u0001", "é\u2028😀"⟩ : Person).encode .json).bytes .json
      = .ok ⟨"\"\\\n\u0001", "é\u2028😀"⟩
    ∧ decode ((⟨"Ada", ""⟩ : Person).encode .json).bytes .json = .error (.missing .last)
    ∧ decode [0x5B, 0x22, 0x41, 0x22, 0x2C, 0x22, 0x4C, 0x22, 0x5D] .json = .ok ⟨"A", "L"⟩
    ∧ decode ((⟨"A", "L"⟩ : Person).encode .protobuf).bytes .protobuf = .ok ⟨"A", "L"⟩ := by
  have hcounted : (⟨"\"\\\n\u0001", "é\u2028😀"⟩ : Person).Counted := by
    intro field
    cases field <;> decide
  have hlist : decode [0x5B, 0x22, 0x41, 0x22, 0x2C, 0x22, 0x4C, 0x22, 0x5D] .json
      = .ok ⟨"A", "L"⟩ :=
    eq_ok_of_toOption (by decide +kernel)
  exact ⟨hcounted, decode_encode.1 _ .protobuf fun _ => hcounted,
    decode_encode.1 _ .json (fun h => nomatch h), decode_encode.1 _ .json (fun h => nomatch h),
    hlist,
    decode_encode.2 _ .json .protobuf _ (fun _ => by decide) hlist⟩

end Person

end RecordRelay
