import RecordRelay.Proofs.Json.Members
import RecordRelay.Proofs.Person.RoundTrip

/-!
# What an object says of a person

The members of an object are read one after the other, but what they say of a person does not depend
on their order (`foldlM_tell`): each name is settled by the members that have it, and by them alone.
If there is none, the name stays empty; if there is one and it holds a text, that is the name; and
in every other case the object is refused. Which name is missing is asked behind the last member, so
a name that no member has and an empty one are the same.

Members with other names are passed whatever they hold, and a name is the same in every spelling, so
a name that comes in two spellings comes twice.
-/

namespace RecordRelay.Person

open Json

/-! ## Settling a name -/

/-- A person with a text in the place of a name. -/
def tellName (name : String) (p : Partial) (s : String) : Partial :=
  if name = "firstname" then { p with first := some s } else { p with last := some s }

/-- The fields of a person are texts. -/
theorem areTexts_jsonFields : jsonFields.AreTexts tellName :=
  ⟨⟨"a string", fun _ _ _ => rfl⟩, fun _ => rfl⟩

/-- What the members with a name **hold**, in order: their texts, and nothing for other values. -/
def told (ms : List Member) (field : NameField) : List (Option String) :=
  (ms.filter fun m => m.name = field.label).map (·.held.text?)

/-- What is known of a name behind the members that have it: the one text, or what was known before;
nothing if there is more, or no text. -/
def settle : Option String → List (Option String) → Option (Option String)
  | known, [] => some known
  | some _, _ :: _ => none
  | none, value :: others => value.bind fun s => settle (some s) others

/-- A member with the name is one more. -/
theorem told_cons_of_eq {m : Member} {field : NameField} (h : m.name = field.label)
    (ms : List Member) : told (m :: ms) field = m.held.text? :: told ms field := by
  unfold told
  rw [List.filter_cons_of_pos (by simpa using h), List.map_cons]

/-- A member with another name is none. -/
theorem told_cons_of_ne {m : Member} {field : NameField} (h : m.name ≠ field.label)
    (ms : List Member) : told (m :: ms) field = told ms field := by
  unfold told
  rw [List.filter_cons_of_neg (by simpa using h)]

/-- A member with the first name tells it. -/
theorem tell_first {m : Member} (h : m.name = NameField.first.label) (first last : Option String) :
    jsonFields.tell tellName ⟨first, last⟩ m
      = if first.isSome then none else m.held.text?.map fun s => ⟨some s, last⟩ := by
  unfold Fields.tell
  rw [h]
  rfl

/-- A member with the last name tells it. -/
theorem tell_last {m : Member} (h : m.name = NameField.last.label) (first last : Option String) :
    jsonFields.tell tellName ⟨first, last⟩ m
      = if last.isSome then none else m.held.text?.map fun s => ⟨first, some s⟩ := by
  unfold Fields.tell
  rw [h]
  rfl

/-- Any other member tells nothing. -/
theorem tell_other {m : Member} (hfirst : m.name ≠ NameField.first.label)
    (hlast : m.name ≠ NameField.last.label) (p : Partial) :
    jsonFields.tell tellName p m = some p := by
  have hunknown : jsonFields.names.contains m.name = false := by
    rw [← Bool.not_eq_true, List.contains_iff_mem]
    simpa [jsonFields, NameField.label] using And.intro hfirst hlast
  unfold Fields.tell
  rw [hunknown]
  rfl

/-- **What members tell** settles both names, each by itself. -/
theorem foldlM_tell (ms : List Member) (p : Partial) :
    ms.foldlM (jsonFields.tell tellName) p
      = (do return ⟨← settle p.first (told ms .first), ← settle p.last (told ms .last)⟩) := by
  induction ms generalizing p with
  | nil => rfl
  | cons m ms ih =>
    obtain ⟨first, last⟩ := p
    rw [List.foldlM_cons]
    by_cases hfirst : m.name = NameField.first.label
    · have hother : m.name ≠ NameField.last.label := by rw [hfirst]; decide
      rw [told_cons_of_eq hfirst, told_cons_of_ne hother, tell_first hfirst]
      cases first with
      | some known => rfl
      | none =>
        cases m.held.text? with
        | none => rfl
        | some s => exact ih ⟨some s, last⟩
    rw [told_cons_of_ne hfirst]
    by_cases hlast : m.name = NameField.last.label
    · rw [told_cons_of_eq hlast, tell_last hlast]
      cases last with
      | some known => cases settle first (told ms .first) <;> rfl
      | none =>
        cases m.held.text? with
        | none => cases settle first (told ms .first) <;> rfl
        | some s => exact ih ⟨first, some s⟩
    · rw [told_cons_of_ne hlast, tell_other hfirst hlast]
      exact ih ⟨first, last⟩

/-- Texts that are more than one, or values that are none, settle nothing. -/
theorem settle_eq_none {held : List (Option String)} (h : 2 ≤ held.length ∨ none ∈ held) :
    settle none held = none := by
  cases held with
  | nil => obtain h | h := h <;> cases h
  | cons value others =>
    cases value with
    | none => rfl
    | some s =>
      cases others with
      | nil => simp at h
      | cons => rfl

/-- A name that comes twice, or without a text, **leaves nothing** to tell. -/
theorem foldlM_tell_eq_none {ms : List Member} {field : NameField}
    (h : 2 ≤ (told ms field).length ∨ none ∈ told ms field) :
    ms.foldlM (jsonFields.tell tellName) .empty = none := by
  rw [foldlM_tell]
  dsimp only [Partial.empty]
  cases field with
  | first =>
    rw [settle_eq_none h]
    rfl
  | last =>
    rw [settle_eq_none h]
    cases settle none (told ms .first) <;> rfl

/-- Members that hold the same for each name **tell the same**. -/
theorem foldlM_tell_congr {ms others : List Member}
    (h : ∀ field, told ms field = told others field) (p : Partial) :
    ms.foldlM (jsonFields.tell tellName) p = others.foldlM (jsonFields.tell tellName) p := by
  rw [foldlM_tell, foldlM_tell, h .first, h .last]

/-! ## Decoding objects -/

/-- An object is decoded as its members tell. -/
theorem decode_octets_of_some {o : ObjectText} {p : Partial}
    (h : o.members.foldlM (jsonFields.tell tellName) .empty = some p) :
    decode o.octets .json
      = if p.complete.firstname = "" then .error (.missing .first)
        else if p.complete.lastname = "" then .error (.missing .last)
        else .ok p.complete := by
  have hread := read?_octets_of_some areTexts_jsonFields o h
  refine decode_of_read? ?_
  show (ofJson? o.octets).mapError DecodeError.json = _
  unfold ofJson?
  rw [hread]
  rfl

/-- What is not read is refused for its form. -/
theorem decode_of_ofJson?_error {body : Bytes} (h : ∃ e, jsonFields.read? .empty body = .error e) :
    ∃ e, decode body .json = .error (.json e) := by
  obtain ⟨e, he⟩ := h
  refine ⟨e, ?_⟩
  unfold decode read? ofJson?
  rw [he]
  rfl

/-- An object is refused for its form if its members tell nothing. -/
theorem decode_octets_of_none {o : ObjectText}
    (h : o.members.foldlM (jsonFields.tell tellName) .empty = none) :
    ∃ e, decode o.octets .json = .error (.json e) := by
  have hread := read?_octets_append_of_none areTexts_jsonFields o h []
  rw [List.append_nil] at hread
  exact decode_of_ofJson?_error hread

/-- Whether members **say a name**: one of them has it and holds the text, or none has it and the
text is empty. -/
def Says (ms : List Member) (field : NameField) (s : String) : Prop :=
  told ms field = [some s] ∨ (told ms field = [] ∧ s = "")

/-- What members say is settled, and empty if nobody says it. -/
theorem Says.settle_eq {ms : List Member} {field : NameField} {s : String} (h : Says ms field s) :
    ∃ known, settle none (told ms field) = some known ∧ known.getD "" = s := by
  obtain h | ⟨h, rfl⟩ := h
  · rw [h]
    exact ⟨some s, rfl, rfl⟩
  · rw [h]
    exact ⟨none, rfl, rfl⟩

/-- **What an object says of a person.** The object may be written in any way, and hold any members.

* If each name comes once at most and then with a text, decoding asks for these texts: it gives them
  if both are there and not empty, and else tells the first that is not.
* If a name comes more than once, or with a value that is no text, the object is refused for its
  form.
* Objects in which the members of either name hold the same are decoded alike or are both refused
  for their form, whatever other members they have, and in whatever order.
* An object with anything but blanks behind it is refused for its form. -/
theorem decode_octets :
    (∀ (o : ObjectText) (first last : String), Says o.members .first first →
      Says o.members .last last →
      decode o.octets .json
        = if first = "" then .error (.missing .first)
          else if last = "" then .error (.missing .last)
          else .ok ⟨first, last⟩)
    ∧ (∀ (o : ObjectText) (field : NameField),
      2 ≤ (told o.members field).length ∨ none ∈ told o.members field →
      ∃ e, decode o.octets .json = .error (.json e))
    ∧ (∀ o other : ObjectText, (∀ field, told o.members field = told other.members field) →
      decode o.octets .json = decode other.octets .json
      ∨ (∃ e, decode o.octets .json = .error (.json e))
        ∧ ∃ e, decode other.octets .json = .error (.json e))
    ∧ ∀ (o : ObjectText) (tail : Bytes), ¬ Blank tail →
      ∃ e, decode (o.octets ++ tail) .json = .error (.json e) := by
  refine ⟨fun o first last hfirst hlast => ?_, fun o field h => ?_, fun o other hsame => ?_,
    fun o tail htail => ?_⟩
  · obtain ⟨f, hf, rfl⟩ := hfirst.settle_eq
    obtain ⟨l, hl, rfl⟩ := hlast.settle_eq
    refine decode_octets_of_some (p := ⟨f, l⟩) ?_
    rw [foldlM_tell]
    dsimp only [Partial.empty]
    rw [hf, hl]
    rfl
  · exact decode_octets_of_none (foldlM_tell_eq_none h)
  · have hfold := foldlM_tell_congr hsame Partial.empty
    cases htold : other.members.foldlM (jsonFields.tell tellName) .empty with
    | none =>
      exact .inr ⟨decode_octets_of_none (hfold.trans htold), decode_octets_of_none htold⟩
    | some p =>
      rw [htold] at hfold
      exact .inl ((decode_octets_of_some hfold).trans (decode_octets_of_some htold).symm)
  · exact decode_of_ofJson?_error (read?_trailing areTexts_jsonFields o htail)

/-- No blanks. -/
def unspaced : Blanks := ⟨[], Blank.nil⟩

/-- A line feed and a space. -/
def spaced : Blanks := ⟨[0x0A, 0x20], by decide⟩

/-- A first name, escaped in its name and in its text. -/
def escapedFirst : Member where
  before := spaced
  name := "firstname"
  contents := Bytes.ofString "first\\u006Eame"
  spells := by decide +kernel
  colon := unspaced
  gap := spaced
  held := .text (Bytes.ofString "A\\ud83d\\uDE00\\/") "A😀/" (by decide +kernel)
  after := unspaced

/-- A last name. -/
def plainLast : Member where
  before := unspaced
  name := "lastname"
  contents := Bytes.ofString "lastname"
  spells := by decide +kernel
  colon := spaced
  gap := unspaced
  held := .text [0x4C] "L" (by decide +kernel)
  after := spaced

/-- The number `-1.5e+3`. -/
def number : Bytes := [0x2D, 0x31, 0x2E, 0x35, 0x65, 0x2B, 0x33]

/-- It is a number. -/
theorem isNumber_number : IsNumber number := by
  have hwhole : IsWhole [0x31] := .digits (by decide) (by decide) (by simp [Digits])
  have hfraction : IsFraction [0x2E, 0x35] := .point (by decide) (by simp [Digits])
  have hexponent : IsExponent (0x65 :: ([0x2B] ++ [0x33])) :=
    .power (.inl rfl) (.inr (.inl rfl)) (by decide) (by simp [Digits])
  exact @IsNumber.mk [0x2D] _ _ _ (.inr rfl) hwhole hfraction hexponent

/-- A member of an inner object: half a pair for its name, and an empty list. -/
def halfNamed : Item where
  label := [0x22, 0x5C, 0x75, 0x44, 0x38, 0x30, 0x30, 0x22, 0x3A]
  before := []
  value := [0x5B, 0x5D]
  after := [0x20]

/-- The list of a number and an object with that member. -/
def nested : Bytes :=
  0x5B :: (number ++ [0x20, 0x2C, 0x7B] ++ halfNamed.octets ++ [0x7D, 0x5D])

/-- It is a value. -/
theorem isValue_nested : IsValue nested := by
  have hunit : IsUnit 0x44 0x38 0x30 0x30 0xD800 := unit?_eq_some_iff.mp rfl
  have hname : IsContents [0x5C, 0x75, 0x44, 0x38, 0x30, 0x30] := .unit hunit .nil
  have hlabel : IsLabel .object halfNamed.label :=
    @IsLabel.object [] _ [] Blank.nil hname Blank.nil
  have hempty : IsValue halfNamed.value :=
    @IsValue.bracket .list [] [] Blank.nil (by simp) (by simp) (by simp)
  have hobject : IsValue (0x7B :: (halfNamed.octets ++ [0x7D])) :=
    @IsValue.bracket .object [] [halfNamed] Blank.nil (by simpa using hlabel) (by decide)
      (by simpa using hempty)
  have hitem : IsValue number := .number isNumber_number
  exact @IsValue.bracket .list []
    [⟨[], [], number, [0x20]⟩, ⟨[], [], 0x7B :: (halfNamed.octets ++ [0x7D]), []⟩] Blank.nil
    (by simp [IsLabel.list]) (by decide) (by simpa using ⟨hitem, hobject⟩)

/-- A member with another name that holds it. -/
def stranger : Member where
  before := unspaced
  name := "more"
  contents := Bytes.ofString "more"
  spells := by decide +kernel
  colon := unspaced
  gap := unspaced
  held := .other nested isValue_nested fun _ _ _ h => nomatch h
  after := spaced

/-- A first name that is a number. -/
def numberedFirst : Member where
  before := unspaced
  name := "firstname"
  contents := Bytes.ofString "firstname"
  spells := by decide +kernel
  colon := unspaced
  gap := unspaced
  held := .other number (.number isNumber_number) fun _ _ _ h => nomatch h
  after := unspaced

/-- An object with some members. -/
def objectOf (members : List Member) : ObjectText where
  before := spaced
  inside := unspaced
  members := members
  after := spaced

/-- Both names around a member that is no name, the same in another order without it, an empty
object, a first name that comes a second time as a number, and an object with a letter behind it. -/
theorem decode_octets_mixed :
    (objectOf [escapedFirst, stranger, plainLast]).octets = Bytes.ofString
      ("\n \x7b\n \"first\\u006Eame\":\n \"A\\ud83d\\uDE00\\/\""
        ++ ",\"more\":[-1.5e+3 ,\x7b\"\\uD800\":[] \x7d]\n ,\"lastname\"\n :\"L\"\n \x7d\n ")
    ∧ decode (objectOf [escapedFirst, stranger, plainLast]).octets .json = .ok ⟨"A😀/", "L"⟩
    ∧ (decode (objectOf [escapedFirst, stranger, plainLast]).octets .json
        = decode (objectOf [plainLast, escapedFirst]).octets .json
      ∨ (∃ e, decode (objectOf [escapedFirst, stranger, plainLast]).octets .json
          = .error (.json e))
        ∧ ∃ e, decode (objectOf [plainLast, escapedFirst]).octets .json = .error (.json e))
    ∧ decode (objectOf []).octets .json = .error (.missing .first)
    ∧ (∃ e, decode (objectOf [escapedFirst, plainLast, numberedFirst]).octets .json
        = .error (.json e))
    ∧ ∃ e, decode ((objectOf [escapedFirst, plainLast]).octets ++ [0x20, 0x78]) .json
        = .error (.json e) := by
  refine ⟨by decide +kernel, ?_, ?_, ?_, ?_, ?_⟩
  · exact decode_octets.1 _ "A😀/" "L" (.inl rfl) (.inl rfl)
  · exact decode_octets.2.2.1 _ _ fun field => by cases field <;> rfl
  · exact decode_octets.1 _ "" "" (.inr ⟨rfl, rfl⟩) (.inr ⟨rfl, rfl⟩)
  · exact decode_octets.2.1 _ .first (.inl (by decide))
  · exact decode_octets.2.2.2 _ _ (by decide)

end RecordRelay.Person
