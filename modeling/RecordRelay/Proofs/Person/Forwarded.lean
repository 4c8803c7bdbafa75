import RecordRelay.Proofs.Json.Cost
import RecordRelay.Proofs.Person.Members

/-!
# What a record costs on the way

A record goes on in protobuf, whatever it came in, and the second hop takes no longer bodies than
the first. So it matters whether a record can be **longer on the way than it was in its body**.

In protobuf a record has a key and a length for each name and then the names. A body in protobuf has
spelled the same at least once, and an object in JSON pays for the names of its two fields, which is
more than two lengths can ask for. A list is the cheapest: seven octets on top of the names. Against
these stand two keys and two lengths, and a length takes one octet more with each power of 128. So
a list is outgrown exactly if the two lengths take more than five octets together, by as many octets
as there are more, and a body of 32775 octets is the shortest to which that happens.
-/

namespace RecordRelay.Person

open Json Protobuf

variable {body : Bytes} {p : Person}

/-! ## Bodies in JSON -/

/-- The number of octets in which **the lengths of both names** are written. -/
def prefixOctets (p : Person) : Nat := lengthOctets p.firstname + lengthOctets p.lastname

/-- What a name costs once it was read, `extra` octets on top of its own. -/
def nameCost (extra : Nat) : Option String → Nat
  | none => 0
  | some s => (Bytes.ofString s).length + extra

/-- What the names cost **in a list**: two quotes and a comma for each. -/
def listCost (told : Partial) : Nat := nameCost 3 told.first + nameCost 3 told.last

/-- What the names cost **in an object**: as much, and the name of the field with two quotes and a
colon. -/
def objectCost (told : Partial) : Nat :=
  nameCost (3 + (NameField.first.label.length + 3)) told.first
    + nameCost (3 + (NameField.last.label.length + 3)) told.last

/-- A person who was decoded **was told both names**. -/
theorem exists_told_of_decode (h : decode body .json = .ok p) :
    jsonFields.read? .empty body = .ok ⟨some p.firstname, some p.lastname⟩ := by
  obtain ⟨hread, hfirst, hlast⟩ := decode_eq_ok_iff.mp h
  obtain ⟨⟨first, last⟩, htold, hcomplete⟩ :=
    exists_of_bind_eq_ok (eq_ok_of_mapError_eq_ok hread : ofJson? body = .ok p)
  obtain rfl := Except.ok.inj hcomplete
  cases first with
  | none => exact absurd rfl hfirst
  | some first =>
    cases last with
    | none => exact absurd rfl hlast
    | some last => exact htold

/-- **A list costs seven octets** more than the names. -/
theorem length_of_list (hlist : OpensList body) (h : decode body .json = .ok p) :
    p.nameOctets + 7 ≤ body.length := by
  have hread {name : String} {told : Partial} {c : Cursor} {r : Read Partial c}
      (hr : jsonFields.read name told c = .ok r) :
      listCost r.value + r.left.rest.length ≤ listCost told + c.rest.length + 1 := by
    obtain ⟨s, hs, hr⟩ := exists_of_bind_eq_ok hr
    obtain rfl := Except.ok.inj hr
    have hlength := length_readString hs
    simp only [listCost, Read.map]
    split <;> dsimp only [nameCost] <;> omega
  have hcost := weight_of_list listCost hlist hread (exists_told_of_decode h)
  simp only [listCost, Partial.empty, nameCost] at hcost
  unfold nameOctets
  omega

/-- **An object costs thirty octets** more than the names. -/
theorem length_of_object (hlist : ¬ OpensList body) (h : decode body .json = .ok p) :
    p.nameOctets + 30 ≤ body.length := by
  have hread {name : String} {told : Partial} {c : Cursor} {r : Read Partial c}
      (hname : jsonFields.names.contains name = true) (hr : jsonFields.read name told c = .ok r) :
      objectCost r.value + r.left.rest.length
        ≤ objectCost told + c.rest.length + 1 + ((Bytes.ofString name).length + 3) := by
    obtain ⟨s, hs, hr⟩ := exists_of_bind_eq_ok hr
    obtain rfl := Except.ok.inj hr
    have hlength := length_readString hs
    have hfield : name = NameField.first.label ∨ name = NameField.last.label := by
      simpa [jsonFields, NameField.label] using hname
    simp only [objectCost, Read.map]
    obtain rfl | rfl := hfield
    · have hlabel : (Bytes.ofString NameField.first.label).length
          = NameField.first.label.length := by decide
      rw [if_pos (by rfl)]
      dsimp only [nameCost]
      omega
    · have hlabel : (Bytes.ofString NameField.last.label).length
          = NameField.last.label.length := by decide
      rw [if_neg (by decide)]
      dsimp only [nameCost]
      omega
  have hcost := weight_of_object objectCost hlist hread (exists_told_of_decode h)
  have hfirst : NameField.first.label.length = 9 := by decide
  have hlast : NameField.last.label.length = 8 := by decide
  simp only [objectCost, Partial.empty, nameCost, hfirst, hlast] at hcost
  unfold nameOctets
  omega

/-! ## Bodies and what goes on -/

/-- A complete person on the wire: two keys, two lengths and the octets of the names. -/
theorem length_encode_of_decode {f : Format} (h : decode body f = .ok p) :
    (p.encode .protobuf).bytes.length = 2 + p.prefixOctets + p.nameOctets := by
  obtain ⟨-, hfirst, hlast⟩ := decode_eq_ok_iff.mp h
  exact length_toWire_of_ne hfirst hlast

/-- Both lengths take **as few octets** as groups are needed for them. -/
theorem prefixOctets_le {groups others : Nat} (hpos : 0 < groups) (hothers : 0 < others)
    (hfirst : (Bytes.ofString p.firstname).length < 128 ^ groups)
    (hlast : (Bytes.ofString p.lastname).length < 128 ^ others) :
    p.prefixOctets ≤ groups + others :=
  Nat.add_le_add (Varint.length_encode_le hpos hfirst) (Varint.length_encode_le hothers hlast)

/-- **No object is outgrown** whose octets are counted in 64 bits. -/
theorem length_encode_le_of_object (hlist : ¬ OpensList body) (hbody : body.length < 2 ^ 64)
    (h : decode body .json = .ok p) : (p.encode .protobuf).bytes.length ≤ body.length := by
  have hcost := length_of_object hlist h
  have hsum : (Bytes.ofString p.firstname).length + (Bytes.ofString p.lastname).length
      < 2 ^ 64 := Nat.lt_of_le_of_lt (Nat.le_add_right _ 30) (Nat.lt_of_le_of_lt hcost hbody)
  have hprefix : p.prefixOctets ≤ 10 + 10 :=
    prefixOctets_le (by decide) (by decide) (by omega) (by omega)
  rw [length_encode_of_decode h]
  omega

/-- **A list is outgrown** by no more octets than the lengths take above five. -/
theorem length_encode_add_le_of_list (hlist : OpensList body) (h : decode body .json = .ok p) :
    (p.encode .protobuf).bytes.length + 5 ≤ body.length + p.prefixOctets := by
  have hcost := length_of_list hlist h
  rw [length_encode_of_decode h]
  omega

/-- **No body in protobuf is outgrown.** -/
theorem length_encode_le_of_protobuf (h : decode body .protobuf = .ok p) :
    (p.encode .protobuf).bytes.length ≤ body.length :=
  length_toWire_le_of_ofWire? (eq_ok_of_mapError_eq_ok (decode_eq_ok_iff.mp h).1)

/-- In a body of fewer than 32775 octets the lengths of the names in a list take five octets at
most, for **one of them is below 16384**. -/
theorem prefixOctets_le_five (hlist : OpensList body) (hbody : body.length < 32775)
    (h : decode body .json = .ok p) : p.prefixOctets ≤ 5 := by
  have hcost := length_of_list hlist h
  unfold nameOctets at hcost
  by_cases hfirst : (Bytes.ofString p.firstname).length < 128 ^ 2
  · show p.prefixOctets ≤ 2 + 3
    exact prefixOctets_le (by decide) (by decide) hfirst (by omega)
  · show p.prefixOctets ≤ 3 + 2
    exact prefixOctets_le (by decide) (by decide) (by omega) (by omega)

/-- **No body is outgrown but a list.** -/
theorem length_encode_le_of_unlisted {f : Format} (hlist : f = .json → ¬ OpensList body)
    (hbody : body.length < 2 ^ 64) (h : decode body f = .ok p) :
    (p.encode .protobuf).bytes.length ≤ body.length := by
  cases f with
  | json => exact length_encode_le_of_object (hlist rfl) hbody h
  | protobuf => exact length_encode_le_of_protobuf h

/-- **Any body** is outgrown by no more octets than the lengths of the names take above five, -/
theorem length_encode_le_add {f : Format} (hbody : body.length < 2 ^ 64)
    (h : decode body f = .ok p) :
    (p.encode .protobuf).bytes.length ≤ body.length + (p.prefixOctets - 5) := by
  by_cases hlist : f = .json ∧ OpensList body
  · obtain ⟨rfl, hopens⟩ := hlist
    have hle := length_encode_add_le_of_list hopens h
    omega
  · have hle := length_encode_le_of_unlisted (fun hf hopens => hlist ⟨hf, hopens⟩) hbody h
    omega

/-- and a body of fewer than 32775 octets is not outgrown. -/
theorem length_encode_le_of_lt {f : Format} (hbody : body.length < 32775)
    (h : decode body f = .ok p) : (p.encode .protobuf).bytes.length ≤ body.length := by
  by_cases hlist : f = .json ∧ OpensList body
  · obtain ⟨rfl, hopens⟩ := hlist
    have hle := length_encode_add_le_of_list hopens h
    have hprefix := prefixOctets_le_five hopens hbody h
    omega
  · exact length_encode_le_of_unlisted (fun hf hopens => hlist ⟨hf, hopens⟩) (by omega) h

/-! ## The list that is outgrown -/

/-- A person in the list that costs least. -/
def toList (p : Person) : Bytes := list [p.firstname, p.lastname]

/-- A complete person **is decoded from a list**. -/
theorem decode_toList (hfirst : p.firstname ≠ "") (hlast : p.lastname ≠ "") :
    decode p.toList .json = .ok p := by
  have hnames : jsonFields.names = "firstname" :: ["lastname"] := rfl
  have hread : jsonFields.read? .empty p.toList = .ok ⟨some p.firstname, some p.lastname⟩ :=
    read?_list areTexts_jsonFields hnames rfl
  refine decode_eq_ok_iff.mpr ⟨?_, hfirst, hlast⟩
  show (ofJson? p.toList).mapError DecodeError.json = .ok p
  unfold ofJson?
  rw [hread]
  rfl

/-- Characters that stand for themselves take **their own octets and two quotes**. -/
theorem length_quote {s : String} (h : ∀ ch ∈ s.toList, Plain ch) :
    (quote s).length = (Bytes.ofString s).length + 2 := by
  have hcontents : s.toList.flatMap quoteChar = Bytes.ofString s := by
    rw [Bytes.ofString, List.flatMap_def, List.flatMap_def]
    exact congrArg List.flatten (List.map_congr_left fun ch hch => (h ch hch).1)
  simp only [quote, hcontents, List.length_cons, List.length_append, List.length_nil]

/-- Such a person costs **seven octets** in a list. -/
theorem length_toList (hfirst : ∀ ch ∈ p.firstname.toList, Plain ch)
    (hlast : ∀ ch ∈ p.lastname.toList, Plain ch) : p.toList.length = p.nameOctets + 7 := by
  simp only [toList, list, furtherItems, List.flatMap_singleton, List.length_cons,
    List.length_append, length_quote hfirst, length_quote hlast, List.length_nil, nameOctets]
  omega

/-- One character, as often as one likes. -/
def repeated (ch : Char) (n : Nat) : String := String.ofList (List.replicate n ch)

/-- It is not empty. -/
theorem repeated_ne (ch : Char) {n : Nat} (h : 0 < n) : repeated ch n ≠ "" := by
  intro he
  have hlength := congrArg (fun s => s.toList.length) he
  simp only [repeated, String.toList_ofList, List.length_replicate] at hlength
  exact absurd hlength (Nat.ne_of_gt h)

/-- A character of ASCII takes as many octets. -/
theorem length_repeated {ch : Char} (h : ch.toNat < 0x80) (n : Nat) :
    (Bytes.ofString (repeated ch n)).length = n := by
  have hone : ch.utf8Size = 1 := by
    rw [← String.length_utf8EncodeChar, Bytes.utf8EncodeChar_of_lt h, List.length_singleton]
  simp [repeated, Bytes.ofString_ofList, List.length_flatMap, hone]

/-- Names of one plain letter each. -/
def lettered (n m : Nat) : Person := ⟨repeated 'a' n, repeated 'b' m⟩

/-- They have as many octets as letters. -/
theorem length_lettered (n m : Nat) :
    (Bytes.ofString (lettered n m).firstname).length = n
      ∧ (Bytes.ofString (lettered n m).lastname).length = m :=
  ⟨length_repeated (by decide) n, length_repeated (by decide) m⟩

/-- A letter stands for itself. -/
theorem plain_repeated {ch : Char} (h : Plain ch) (n : Nat) :
    ∀ c ∈ (repeated ch n).toList, Plain c := by
  intro c hc
  rw [repeated, String.toList_ofList] at hc
  rwa [List.eq_of_mem_replicate hc]

/-- Such names cost seven octets in a list. -/
theorem length_toList_lettered (n m : Nat) : (lettered n m).toList.length = n + m + 7 := by
  have hlength : (lettered n m).toList.length = (lettered n m).nameOctets + 7 :=
    length_toList (plain_repeated (by decide) n) (plain_repeated (by decide) m)
  rw [hlength, nameOctets, (length_lettered n m).1, (length_lettered n m).2]

/-- Names of 16384 octets and more **outgrow their list**. -/
theorem length_toList_lt_length_encode {n m : Nat} (hn : 16384 ≤ n) (hm : 16384 ≤ m) :
    (lettered n m).toList.length < ((lettered n m).encode .protobuf).bytes.length := by
  have hdecode : decode (lettered n m).toList .json = .ok (lettered n m) :=
    decode_toList (repeated_ne 'a' (by omega)) (repeated_ne 'b' (by omega))
  obtain ⟨hn', hm'⟩ := length_lettered n m
  have hfirst : 2 < lengthOctets (lettered n m).firstname := Varint.lt_length_encode (by omega)
  have hlast : 2 < lengthOctets (lettered n m).lastname := Varint.lt_length_encode (by omega)
  rw [length_toList_lettered, length_encode_of_decode hdecode, prefixOctets, nameOctets]
  omega

/-- A larger limit is **outgrown by a list of just so many octets**: its last name has 16384 of
them, and the first name the others. -/
theorem exists_longer {limit : Nat} (h : 32775 ≤ limit) :
    ∃ p : Person, p.toList.length = limit ∧ decode p.toList .json = .ok p
      ∧ limit < (p.encode .protobuf).bytes.length := by
  have hlength : (lettered (limit - 16391) 16384).toList.length = limit := by
    rw [length_toList_lettered]
    omega
  have hfirst : 16384 ≤ limit - 16391 := by omega
  have hlonger := length_toList_lt_length_encode hfirst (Nat.le_refl 16384)
  rw [hlength] at hlonger
  exact ⟨_, hlength, decode_toList (repeated_ne 'a' (by omega)) (repeated_ne 'b' (by decide)),
    hlonger⟩

/-! ## How much longer -/

/-- **A record goes on in no more octets than it came in**, unless it came as a list.

* Let a limit be counted in 64 bits, as all sizes are. If a body within the limit is decoded and it
  is a message or an object, then the record in protobuf is within the limit.
* For any body it is, but for the octets that the lengths of the names take above five.
* A list of two plain names is outgrown by just these.
* So all bodies within a limit have records within the limit exactly if the limit is less than
  32775. -/
theorem length_forwarded :
    (∀ (limit : Nat) (body : Bytes) (f : Format) (p : Person), limit < 2 ^ 64 →
      body.length ≤ limit → decode body f = .ok p → (f = .json → ¬ OpensList body) →
      (p.encode .protobuf).bytes.length ≤ limit)
    ∧ (∀ (limit : Nat) (body : Bytes) (f : Format) (p : Person), limit < 2 ^ 64 →
      body.length ≤ limit → decode body f = .ok p →
      (p.encode .protobuf).bytes.length ≤ limit + (p.prefixOctets - 5))
    ∧ (∀ p : Person, p.firstname ≠ "" → p.lastname ≠ "" →
      (∀ ch ∈ p.firstname.toList, Plain ch) → (∀ ch ∈ p.lastname.toList, Plain ch) →
      decode p.toList .json = .ok p
      ∧ (p.encode .protobuf).bytes.length + 5 = p.toList.length + p.prefixOctets)
    ∧ ∀ limit : Nat,
      (∀ (body : Bytes) (f : Format) (p : Person), body.length ≤ limit → decode body f = .ok p →
        (p.encode .protobuf).bytes.length ≤ limit)
      ↔ limit < 32775 := by
  refine ⟨fun limit body f p hlimit hbody h hlist => ?_, fun limit body f p hlimit hbody h => ?_,
    fun p hfirst hlast hfirstPlain hlastPlain => ?_, fun limit => ⟨fun hall => ?_, ?_⟩⟩
  · have hle := length_encode_le_of_unlisted hlist (Nat.lt_of_le_of_lt hbody hlimit) h
    exact Nat.le_trans hle hbody
  · have hle := length_encode_le_add (Nat.lt_of_le_of_lt hbody hlimit) h
    exact Nat.le_trans hle (Nat.add_le_add_right hbody _)
  · have hdecode := decode_toList hfirst hlast
    refine ⟨hdecode, ?_⟩
    rw [length_encode_of_decode hdecode, length_toList hfirstPlain hlastPlain]
    omega
  · by_contra hlarge
    obtain ⟨p, hlength, hdecode, hlonger⟩ := exists_longer (Nat.le_of_not_lt hlarge)
    have hle := hall p.toList .json p (Nat.le_of_eq hlength) hdecode
    exact absurd hlonger (Nat.not_lt.mpr hle)
  · intro hlimit body f p hbody h
    have hle := length_encode_le_of_lt (Nat.lt_of_le_of_lt hbody hlimit) h
    exact Nat.le_trans hle hbody

/-- An object and a message, a list of the same names, and small and large limits. -/
theorem length_forwarded_small :
    ((⟨"A", "L"⟩ : Person).encode .protobuf).bytes.length ≤ 32
    ∧ ((⟨"A", "L"⟩ : Person).encode .protobuf).bytes.length
      ≤ 9 + ((⟨"A", "L"⟩ : Person).prefixOctets - 5)
    ∧ ((⟨"A", "L"⟩ : Person).encode .protobuf).bytes.length + 5
      = (⟨"A", "L"⟩ : Person).toList.length + (⟨"A", "L"⟩ : Person).prefixOctets
    ∧ ((⟨"A", "L"⟩ : Person).encode .protobuf).bytes.length ≤ 1024 := by
  have hobject : decode (toJson ⟨"A", "L"⟩) .json = .ok ⟨"A", "L"⟩ :=
    eq_ok_of_toOption (by decide +kernel)
  have hlist := decode_toList (p := ⟨"A", "L"⟩) (by decide) (by decide)
  have hplain : Plain 'A' ∧ Plain 'L' := by decide
  refine ⟨?_, ?_, (length_forwarded.2.2.1 _ (by decide) (by decide) ?_ ?_).2, ?_⟩
  · exact length_forwarded.1 32 _ .json _ (by decide) (by decide) hobject fun _ => by decide
  · exact length_forwarded.2.1 9 _ .json _ (by decide) (by decide) hlist
  · exact List.forall_mem_singleton.mpr hplain.1
  · exact List.forall_mem_singleton.mpr hplain.2
  · exact (length_forwarded.2.2.2 1024).mpr (by decide) _ .json _ (by decide) hobject

/-- **A record that is longer than its body**: a list of two names of 16384 letters each is a body
of 32775 octets, and in protobuf the record has 32776. -/
theorem longer_than_list :
    (lettered 16384 16384).toList.length = 32775
    ∧ decode (lettered 16384 16384).toList .json = .ok (lettered 16384 16384)
    ∧ ¬ ((lettered 16384 16384).encode .protobuf).bytes.length ≤ 32775 := by
  have hlength := length_toList_lettered 16384 16384
  refine ⟨hlength, decode_toList (repeated_ne 'a' (by decide)) (repeated_ne 'b' (by decide)), ?_⟩
  have hlonger := length_toList_lt_length_encode (Nat.le_refl 16384) (Nat.le_refl 16384)
  omega

end RecordRelay.Person
