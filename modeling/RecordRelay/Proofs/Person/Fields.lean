import RecordRelay.Proofs.Person.RoundTrip
import RecordRelay.Proofs.Protobuf.Field
import Mathlib.Data.List.Induction

/-!
# What a message says of a person

A message is a list of fields, and merging it is merging its fields one after the other
(`mergeWire_message`): a field with the number of a name sets that name or, if it holds no text,
ends the reading, and every other field is passed. All that is said of messages here is said of that
fold, so neither spellings nor groups appear again.

From it follow the names that a message gives. The **last field of a name counts**, an empty one
too, and which names are missing is asked only behind the last field. Fields that are no names may
be put in, taken out and moved, also groups that hold fields with the numbers of the names, and of
two fields with different numbers it does not matter which comes first.
-/

namespace RecordRelay

/-- The number of a name tells which name it is. -/
theorem NameField.ofNumber?_eq_some_iff {n : Nat} {field : NameField} :
    NameField.ofNumber? n = some field ↔ n = field.number := by
  constructor
  · intro h
    unfold ofNumber? at h
    split at h
    · cases h
      rfl
    · cases h
      rfl
    · cases h
  · rintro rfl
    exact field.ofNumber?_number

/-- The name that a field sets, if it sets one. -/
def Protobuf.Field.name? (f : Protobuf.Field) : Option NameField := NameField.ofNumber? f.key.number

/-- Whether a field **can be read for what it is**: if it sets a name, it holds a text. -/
def Protobuf.Field.Legible (f : Protobuf.Field) : Prop :=
  f.name?.isSome → f.text?.isSome

instance (f : Protobuf.Field) : Decidable f.Legible :=
  inferInstanceAs (Decidable (_ → _))

namespace Person

open Protobuf

/-! ## Merging fields -/

/-- What a field makes of a person. -/
def mergeField (p : Person) (f : Field) : Except Protobuf.Error Person :=
  match f.name? with
  | none => .ok p
  | some field =>
    match f.text? with
    | none => .error ⟨f.notTextFault, some (fieldName field)⟩
    | some s => .ok (p.withName field s)

/-- **Merging a field**, in front of any octets. -/
theorem mergeWire_field (p : Person) {f : Field} (h : f.levels ≤ maxDepth) (rest : Bytes) :
    p.mergeWire (f.keyOctets ++ (f.value ++ rest)) = (p.mergeField f).bind (·.mergeWire rest) := by
  have hkey := f.readKey_keyOctets (f.value ++ rest)
  have htext := readText_value f rest
  unfold mergeField
  split
  · next hname =>
    exact mergeWire_of_passValue hkey hname (passValue_value h rest (by simp))
  · next field hname =>
    split
    · next hnone =>
      rw [hnone] at htext
      exact mergeWire_of_readText_error hkey hname htext
    · next s hsome =>
      rw [hsome] at htext
      exact mergeWire_of_readText hkey hname htext

/-- **Merging a message** is merging its fields in turn. -/
theorem mergeWire_message (p : Person) {fields : List Field} (h : levels fields ≤ maxDepth) :
    p.mergeWire (message fields) = fields.foldlM mergeField p := by
  induction fields generalizing p with
  | nil => exact p.mergeWire_nil
  | cons f fields ih =>
    obtain ⟨hf, hfields⟩ := Nat.max_le.mp h
    rw [message, p.mergeWire_field hf, List.foldlM_cons]
    exact congrArg (p.mergeField f).bind (funext fun q => ih q hfields)

/-- A field that sets no name changes nothing. -/
theorem mergeField_of_name? {p : Person} {f : Field} (h : f.name? = none) :
    p.mergeField f = .ok p := by
  unfold mergeField
  rw [h]

/-- A text sets its name. -/
theorem mergeField_of_text? {p : Person} {f : Field} {field : NameField} {s : String}
    (hname : f.name? = some field) (htext : f.text? = some s) :
    p.mergeField f = .ok (p.withName field s) := by
  unfold mergeField
  rw [hname, htext]

/-- A field that can be read is merged. -/
theorem exists_mergeField {f : Field} (h : f.Legible) (p : Person) :
    ∃ q, p.mergeField f = .ok q := by
  unfold mergeField
  split
  · exact ⟨_, rfl⟩
  · next hname =>
    obtain ⟨s, hs⟩ := Option.isSome_iff_exists.mp (h (by rw [hname]; rfl))
    rw [hs]
    exact ⟨_, rfl⟩

/-- A field that cannot be read is **refused the same way** whatever came before it. -/
theorem exists_mergeField_error {f : Field} (h : ¬ f.Legible) :
    ∃ e, ∀ p : Person, p.mergeField f = .error e := by
  obtain ⟨hname, htext⟩ := Classical.not_imp.mp h
  obtain ⟨field, hname⟩ := Option.isSome_iff_exists.mp hname
  rw [Option.not_isSome_iff_eq_none] at htext
  refine ⟨⟨f.notTextFault, some (fieldName field)⟩, fun p => ?_⟩
  unfold mergeField
  rw [hname, htext]

/-! ## The names in a message -/

/-- The text of the **last field of a name**; empty if there is none. -/
def lastText (fields : List Field) (field : NameField) : String :=
  ((fields.filter fun f => f.key.number = field.number).getLast?.bind Field.text?).getD ""

/-- The person that a message names. -/
def named (fields : List Field) : Person := ⟨lastText fields .first, lastText fields .last⟩

@[simp]
theorem name_named (fields : List Field) (field : NameField) :
    (named fields).name field = lastText fields field := by
  cases field <;> rfl

/-- People with the same names are the same. -/
theorem eq_of_name {p q : Person} (h : ∀ field, p.name field = q.name field) : p = q := by
  cases p
  cases q
  exact congr (congrArg Person.mk (h .first)) (h .last)

/-- A field of another number leaves the last text of a name. -/
theorem lastText_append_of_ne {f : Field} {field : NameField} (h : f.key.number ≠ field.number)
    (fields : List Field) : lastText (fields ++ [f]) field = lastText fields field := by
  unfold lastText
  rw [List.filter_append, List.filter_cons_of_neg (by simpa using h), List.filter_nil,
    List.append_nil]

/-- A field of a name that holds a text has the last text of that name. -/
theorem lastText_append_of_eq {f : Field} {field : NameField} {s : String}
    (h : f.key.number = field.number) (htext : f.text? = some s) (fields : List Field) :
    lastText (fields ++ [f]) field = s := by
  unfold lastText
  rw [List.filter_append, List.filter_cons_of_pos (by simpa using h), List.filter_nil,
    List.getLast?_concat, Option.bind_some, htext, Option.getD_some]

/-- **One field more**: merged into the person whom the fields before it name, it makes the person
whom all of them name. -/
theorem mergeField_named {f : Field} (h : f.Legible) (fields : List Field) :
    (named fields).mergeField f = .ok (named (fields ++ [f])) := by
  cases hname : f.name? with
  | none =>
    have hsame : named (fields ++ [f]) = named fields := by
      refine eq_of_name fun field => ?_
      rw [name_named, name_named, lastText_append_of_ne]
      intro heq
      rw [Field.name?, NameField.ofNumber?_eq_some_iff.mpr heq] at hname
      cases hname
    rw [mergeField_of_name? hname, hsame]
  | some field =>
    have hnumber := NameField.ofNumber?_eq_some_iff.mp hname
    obtain ⟨s, hs⟩ := Option.isSome_iff_exists.mp (h (by rw [hname]; rfl))
    rw [mergeField_of_text? hname hs]
    refine congrArg Except.ok (eq_of_name fun other => ?_)
    rw [name_withName, name_named, name_named]
    split
    · next heq =>
      rw [heq, lastText_append_of_eq hnumber hs]
    · next hne =>
      rw [lastText_append_of_ne]
      intro heq
      have hother := NameField.ofNumber?_eq_some_iff.mpr heq
      rw [← Field.name?, hname] at hother
      exact hne (Option.some.inj hother).symm

/-- **Fields that can be read are merged** into the person whom the last of each name names. The
induction is on the last field. -/
theorem foldlM_mergeField {fields : List Field} (h : ∀ f ∈ fields, f.Legible) :
    fields.foldlM mergeField unnamed = .ok (named fields) := by
  induction fields using List.reverseRecOn with
  | nil => rfl
  | append_singleton fields f ih =>
    have hf := mergeField_named (h f (List.mem_append_right _ List.mem_cons_self)) fields
    rw [List.foldlM_append, ih fun g hg => h g (List.mem_append_left _ hg)]
    show ((named fields).mergeField f).bind pure = _
    rw [hf]
    rfl

/-- **A field that cannot be read** ends the merging with an error, wherever it stands. -/
theorem exists_foldlM_mergeField_error {fields : List Field} (h : ∃ f ∈ fields, ¬ f.Legible)
    (p : Person) : ∃ e, fields.foldlM mergeField p = .error e := by
  induction fields generalizing p with
  | nil => obtain ⟨f, hf, -⟩ := h; cases hf
  | cons f fields ih =>
    rw [List.foldlM_cons]
    by_cases hf : f.Legible
    · obtain ⟨q, hq⟩ := exists_mergeField hf p
      rw [hq]
      refine ih ?_ q
      obtain ⟨g, hg, hnot⟩ := h
      obtain rfl | hg := List.mem_cons.mp hg
      · exact absurd hf hnot
      · exact ⟨g, hg, hnot⟩
    · obtain ⟨e, he⟩ := exists_mergeField_error hf
      rw [he]
      exact ⟨e, rfl⟩

/-- **Fields that are no names** can be left out. -/
theorem foldlM_mergeField_filter (fields : List Field) (p : Person) :
    (fields.filter (·.name?.isSome)).foldlM mergeField p = fields.foldlM mergeField p := by
  induction fields generalizing p with
  | nil => rfl
  | cons f fields ih =>
    rw [List.foldlM_cons]
    cases hname : f.name? with
    | none =>
      rw [List.filter_cons_of_neg (by rw [hname]; exact Bool.false_ne_true), ih,
        mergeField_of_name? hname]
      rfl
    | some field =>
      rw [List.filter_cons_of_pos (by rw [hname]; rfl), List.foldlM_cons]
      exact congrArg (p.mergeField f).bind (funext ih)

/-- Names that are set one after the other may be set in either order. -/
theorem withName_comm {field other : NameField} (h : field ≠ other) (p : Person) (s t : String) :
    (p.withName field s).withName other t = (p.withName other t).withName field s := by
  refine eq_of_name fun name => ?_
  simp only [name_withName]
  split
  · next heq => rw [if_neg (heq ▸ h.symm)]
  · rfl

/-- A field that can be read may come behind any field with another number that stands after it. -/
theorem mergeField_comm_of_legible {f g : Field} (hne : f.key.number ≠ g.key.number)
    (hf : f.Legible) (p : Person) :
    (p.mergeField f).bind (·.mergeField g) = (p.mergeField g).bind (·.mergeField f) := by
  cases hname : f.name? with
  | none =>
    have hpassed : ∀ q : Person, q.mergeField f = .ok q := fun q => mergeField_of_name? hname
    simp only [hpassed]
    show p.mergeField g = _
    cases p.mergeField g <;> rfl
  | some field =>
    obtain ⟨s, htext⟩ := Option.isSome_iff_exists.mp (hf (by rw [hname]; rfl))
    have hset : ∀ q : Person, q.mergeField f = .ok (q.withName field s) := fun q =>
      mergeField_of_text? hname htext
    simp only [hset]
    show (p.withName field s).mergeField g = _
    cases hother : g.name? with
    | none =>
      rw [mergeField_of_name? hother, mergeField_of_name? hother]
      rfl
    | some other =>
      cases hg : g.text? with
      | none =>
        unfold mergeField
        rw [hother, hg]
        rfl
      | some t =>
        rw [mergeField_of_text? hother hg, mergeField_of_text? hother hg]
        have hdiff : field ≠ other := by
          rintro rfl
          exact hne ((NameField.ofNumber?_eq_some_iff.mp hname).trans
            (NameField.ofNumber?_eq_some_iff.mp hother).symm)
        exact congrArg Except.ok (withName_comm hdiff p s t)

/-- **Two fields with different numbers may change places**, unless neither can be read. -/
theorem foldlM_mergeField_swap {f g : Field} (hne : f.key.number ≠ g.key.number)
    (h : f.Legible ∨ g.Legible) (before after : List Field) (p : Person) :
    (before ++ f :: g :: after).foldlM mergeField p
      = (before ++ g :: f :: after).foldlM mergeField p := by
  have hcomm : ∀ q : Person,
      (q.mergeField f).bind (·.mergeField g) = (q.mergeField g).bind (·.mergeField f) := fun q =>
    h.elim (mergeField_comm_of_legible hne · q) fun hg =>
      (mergeField_comm_of_legible hne.symm hg q).symm
  have hpair : ∀ (a b : Field) (q : Person), (a :: b :: after).foldlM mergeField q
      = ((q.mergeField a).bind (·.mergeField b)).bind (after.foldlM mergeField ·) := by
    intro a b q
    rw [List.foldlM_cons]
    cases hq : q.mergeField a <;> simp [bind, Except.bind]
  rw [List.foldlM_append, List.foldlM_append]
  refine congrArg (Bind.bind _) (funext fun q => ?_)
  rw [hpair, hpair, hcomm]

/-! ## Decoding messages -/

/-- A message is decoded by merging its fields. -/
theorem read?_message {fields : List Field} (h : levels fields ≤ maxDepth) :
    read? (message fields) .protobuf
      = (fields.foldlM mergeField unnamed).mapError DecodeError.protobuf :=
  congrArg (Except.mapError DecodeError.protobuf) (unnamed.mergeWire_message h)

/-- Messages that merge alike are decoded alike. -/
theorem decode_congr {fields others : List Field} (h : levels fields ≤ maxDepth)
    (hothers : levels others ≤ maxDepth)
    (hmerge : fields.foldlM mergeField unnamed = others.foldlM mergeField unnamed) :
    decode (message fields) .protobuf = decode (message others) .protobuf := by
  unfold decode
  rw [read?_message h, read?_message hothers, hmerge]

/-- **What a message says of a person.** The message may be any fields in any spelling whose groups
are not nested deeper than a reader goes.

* If the fields of names all hold texts, decoding asks for the names in the last field of each: it
  gives them if both are there and not empty, and else tells the first that is not.
* Two messages that have the same fields of names in the same order are decoded alike, whatever
  other fields stand in either, and where.
* So are two messages that differ in the order of two neighbours with different numbers, if one of
  them at least can be read. (If neither can, both messages are refused, each for its first one.)
* If some field of a name holds no text, the message is refused for its form. -/
theorem decode_message :
    (∀ fields : List Field, levels fields ≤ maxDepth → (∀ f ∈ fields, f.Legible) →
      decode (message fields) .protobuf
        = if lastText fields .first = "" then .error (.missing .first)
          else if lastText fields .last = "" then .error (.missing .last)
          else .ok ⟨lastText fields .first, lastText fields .last⟩)
    ∧ (∀ fields others : List Field, levels fields ≤ maxDepth → levels others ≤ maxDepth →
      fields.filter (·.name?.isSome) = others.filter (·.name?.isSome) →
      decode (message fields) .protobuf = decode (message others) .protobuf)
    ∧ (∀ (before after : List Field) (f g : Field),
      levels (before ++ f :: g :: after) ≤ maxDepth → f.key.number ≠ g.key.number →
      f.Legible ∨ g.Legible →
      decode (message (before ++ f :: g :: after)) .protobuf
        = decode (message (before ++ g :: f :: after)) .protobuf)
    ∧ ∀ fields : List Field, levels fields ≤ maxDepth → (∃ f ∈ fields, ¬ f.Legible) →
      ∃ e, decode (message fields) .protobuf = .error (.protobuf e) := by
  refine ⟨fun fields h hlegible => ?_, fun fields others h hothers hsame => ?_,
    fun before after f g h hne hlegible => ?_, fun fields h hnot => ?_⟩
  · refine decode_of_read? (p := named fields) ?_
    rw [read?_message h, foldlM_mergeField hlegible]
    rfl
  · refine decode_congr h hothers ?_
    rw [← foldlM_mergeField_filter fields, hsame, foldlM_mergeField_filter]
  · have hswapped : levels (before ++ g :: f :: after) ≤ maxDepth := by
      rw [levels_le_iff] at h ⊢
      exact fun x hx => h x (((List.Perm.swap g f after).append_left before).mem_iff.mpr hx)
    exact decode_congr h hswapped (foldlM_mergeField_swap hne hlegible before after unnamed)
  · obtain ⟨e, he⟩ := exists_foldlM_mergeField_error hnot unnamed
    refine ⟨e, ?_⟩
    unfold decode
    rw [read?_message h, he]
    rfl

/-- Merging ends well **only with a message** of fields that can be read. -/
theorem exists_message_of_mergeWire {p q : Person} {bytes : Bytes} (h : p.mergeWire bytes = .ok q) :
    ∃ fields : List Field, bytes = message fields ∧ levels fields ≤ maxDepth
      ∧ ∀ f ∈ fields, f.Legible := by
  fun_induction mergeWire p bytes with
  | case1 p bytes hempty => exact ⟨[], List.isEmpty_iff.mp hempty, Nat.zero_le _, by simp⟩
  | case2 | case3 | case5 => cases h
  | case4 p bytes _ key left hkey _ field hfield s rest htext _ ih =>
    obtain ⟨wire, k, rfl, rfl⟩ := exists_spelledKey hkey
    obtain ⟨f, -, hoctets, hlevels, hf, rfl⟩ := exists_field_of_readText k htext
    obtain ⟨fields, rfl, hfields, hlegible⟩ := ih h
    refine ⟨f :: fields, by rw [message, hoctets], Nat.max_le.mpr ⟨?_, hfields⟩,
      List.forall_mem_cons.mpr ⟨fun _ => by rw [hf]; rfl, hlegible⟩⟩
    rw [hlevels]
    decide
  | case6 p bytes _ key left hkey _ hfield rest hpass _ ih =>
    obtain ⟨wire, k, rfl, rfl⟩ := exists_spelledKey hkey
    obtain ⟨f, hf, hoctets, hlevels, hleft⟩ := passesFields_passValue maxDepth wire k left rest hpass
    obtain ⟨fields, hrest, hfields, hlegible⟩ := ih h
    refine ⟨f :: fields, by rw [message, hoctets, ← hrest, ← hleft],
      Nat.max_le.mpr ⟨hlevels, hfields⟩, List.forall_mem_cons.mpr ⟨fun hname => ?_, hlegible⟩⟩
    rw [Field.name?, hf, hfield] at hname
    cases hname

/-- **A record is decoded from its messages and from nothing else**: the octets are fields that can
be read, and the last of each name are the names of the record, neither of them empty. -/
theorem decode_protobuf_eq_ok_iff {p : Person} {body : Bytes} :
    decode body .protobuf = .ok p ↔
      ∃ fields : List Field, body = message fields ∧ levels fields ≤ maxDepth
        ∧ (∀ f ∈ fields, f.Legible) ∧ p = named fields ∧ p.firstname ≠ "" ∧ p.lastname ≠ "" := by
  rw [decode_eq_ok_iff]
  constructor
  · rintro ⟨hread, hnames⟩
    obtain ⟨fields, rfl, hlevels, hlegible⟩ :=
      exists_message_of_mergeWire (eq_ok_of_mapError_eq_ok hread)
    rw [read?_message hlevels, foldlM_mergeField hlegible] at hread
    exact ⟨fields, rfl, hlevels, hlegible, (Except.ok.inj hread).symm, hnames⟩
  · rintro ⟨fields, rfl, hlevels, hlegible, rfl, hnames⟩
    rw [read?_message hlevels, foldlM_mergeField hlegible]
    exact ⟨rfl, hnames⟩

/-- A first name, with a key of three octets and a length of two. -/
def longSpelled : Field :=
  .lengthDelimited ⟨1, [0x8A, 0x80, 0x00], by decide, by decide, by decide⟩
    [0x83, 0x00] [0x41, 0x64, 0x61] (by decide)

/-- A last name. -/
def shortSpelled : Field :=
  .lengthDelimited ⟨2, [0x12], by decide, by decide, by decide⟩ [0x01] [0x4C] (by decide)

/-- A group that is no name and holds fields with the numbers of both. -/
def decoy : Field :=
  .group ⟨3, [0x1B], by decide, by decide, by decide⟩
    [.lengthDelimited ⟨1, [0x0A], by decide, by decide, by decide⟩ [0x01] [0x58] (by decide),
      .group ⟨2, [0x13], by decide, by decide, by decide⟩ []
        ⟨2, [0x14], by decide, by decide, by decide⟩ rfl]
    ⟨3, [0x9C, 0x00], by decide, by decide, by decide⟩ rfl

/-- A first name that is a number. -/
def numbered : Field :=
  .varint ⟨1, [0x08], by decide, by decide, by decide⟩ [0x2A] 42 (by decide)

/-- Names around a group, the same without it, names in the other order, and a first name that comes
a second time as a number. -/
theorem decode_message_mixed :
    message [longSpelled, decoy, shortSpelled]
      = [0x8A, 0x80, 0x00, 0x83, 0x00, 0x41, 0x64, 0x61, 0x1B, 0x0A, 0x01, 0x58, 0x13, 0x14, 0x9C,
        0x00, 0x12, 0x01, 0x4C]
    ∧ levels [longSpelled, decoy, shortSpelled] ≤ maxDepth
    ∧ (∀ f ∈ [longSpelled, decoy, shortSpelled], f.Legible)
    ∧ decode (message [longSpelled, decoy, shortSpelled]) .protobuf = .ok ⟨"Ada", "L"⟩
    ∧ decode (message [longSpelled, decoy, shortSpelled]) .protobuf
      = decode (message [longSpelled, shortSpelled]) .protobuf
    ∧ decode (message [decoy, longSpelled, shortSpelled]) .protobuf
      = decode (message [decoy, shortSpelled, longSpelled]) .protobuf
    ∧ ∃ e, decode (message [longSpelled, shortSpelled, numbered]) .protobuf
      = .error (.protobuf e) := by
  have hlevels : levels [longSpelled, decoy, shortSpelled] ≤ maxDepth := by decide
  have hlegible : ∀ f ∈ [longSpelled, decoy, shortSpelled], f.Legible := by decide +kernel
  have hfirst : lastText [longSpelled, decoy, shortSpelled] .first = "Ada" := by decide +kernel
  have hlast : lastText [longSpelled, decoy, shortSpelled] .last = "L" := by decide +kernel
  refine ⟨rfl, hlevels, hlegible, ?_, ?_, ?_, ?_⟩
  · rw [decode_message.1 _ hlevels hlegible, hfirst, hlast]
    rfl
  · exact decode_message.2.1 _ _ hlevels (by decide) rfl
  · exact decode_message.2.2.1 [decoy] [] longSpelled shortSpelled (by decide) (by decide)
      (.inl (by decide +kernel))
  · exact decode_message.2.2.2 _ (by decide) ⟨numbered, by simp, by decide⟩

end Person

end RecordRelay
