import RecordRelay.Proofs.Json.Members
import RecordRelay.Proofs.Json.Object

/-!
# Objects that break off

If writing an object breaks off and others are written behind it, the text is **never read**
(`fails_of_isCut`), wherever each of them broke off, be it in a name, in a value, in an escape or
between the parts, and however many there are (`Stumps`).

Outside a string the brace of the next object is out of place. Inside, the string goes on with that
brace and ends at the first quote that follows, which is the one that opens a name; so the name, or
whatever comes instead, is where a mark should be. That is all one has to know of what follows: it
is a sequence of braces, perhaps with a quote behind the last one, and behind the quote there is
**no mark**.

Nor is an object read if there is another behind it (`fails_of_filled`).
-/

namespace RecordRelay.Json

variable {α σ : Type} {c : Cursor} {b : UInt8} {rest p q whole text : Bytes}

/-! ## Where a mark should be -/

/-- Whether an octet is **a mark** or a blank: what may stand between the strings of an object. -/
def isMark (b : UInt8) : Bool := isSpace b || b == 0x22 || b == 0x2C || b == 0x3A || b == 0x7D

/-- Where there is no mark there is no blank either, and nothing is passed. -/
theorem Cursor.spaces_of_stops (h : Stops isMark c.rest) : c.spaces.rest = c.rest := by
  refine Cursor.spaces_append Blank.nil rfl (h.mono fun b hb => ?_)
  rw [isMark, hb]
  rfl

/-- Without a mark the text ends, or an octet follows that is none of the marks. -/
theorem Cursor.peek?_of_stops (h : Stops isMark c.rest) :
    c.spaces.peek? = none ∨ ∃ b, c.spaces.peek? = some b ∧ (b == 0x22) = false
      ∧ (b == 0x2C) = false ∧ (b == 0x3A) = false ∧ (b == 0x7D) = false := by
  have hspaces := Cursor.spaces_of_stops h
  cases hrest : c.rest with
  | nil =>
    rw [hrest] at hspaces
    exact .inl (by rw [Cursor.peek?, hspaces]; rfl)
  | cons b rest =>
    rw [hrest] at hspaces h
    have hb := h b rfl
    simp only [isMark, Bool.or_eq_false_iff] at hb
    exact .inr ⟨b, Cursor.peek?_of_rest hspaces, hb.1.1.1.2, hb.1.1.2, hb.1.2, hb.2⟩

/-- **Without a mark** there is no further name, no end of the object, -/
theorem fails_nextName (first : Bool) (h : Stops isMark c.rest) :
    ∃ e, Fields.nextName first c = .error e := by
  unfold Fields.nextName
  obtain hnone | ⟨b, hb, hquote, hcomma, -, hbrace⟩ := Cursor.peek?_of_stops h
  · rw [hnone]
    exact ⟨_, rfl⟩
  · rw [hb]
    dsimp only
    rw [hquote, hcomma, hbrace]
    cases first <;> exact ⟨_, rfl⟩

/-- no colon, -/
theorem fails_takeColon (h : Stops isMark c.rest) : ∃ e, Fields.takeColon c = .error e := by
  unfold Fields.takeColon
  obtain hnone | ⟨b, hb, -, -, hcolon, -⟩ := Cursor.peek?_of_stops h
  · rw [hnone]
    exact ⟨_, rfl⟩
  · rw [hb]
    dsimp only
    rw [hcolon]
    exact ⟨_, rfl⟩

/-- and no string. -/
theorem fails_readString (expected : String) (h : Stops isMark c.rest) :
    ∃ e, readString expected c = .error e := by
  unfold readString
  obtain hnone | ⟨b, hb, hquote, -⟩ := Cursor.peek?_of_stops h
  · rw [hnone]
    exact ⟨_, rfl⟩
  · rw [hb]
    dsimp only
    rw [hquote]
    exact ⟨_, rfl⟩

/-- Nor is there a name behind a comma then. -/
theorem fails_nextName_comma (hc : c.rest = 0x2C :: rest) (h : Stops isMark rest) :
    ∃ e, Fields.nextName false c = .error e := by
  have hspaces := Cursor.spaces_rest Blank.nil hc (by decide)
  rw [← Cursor.next_rest hspaces] at h
  unfold Fields.nextName
  rw [Cursor.peek?_of_rest hspaces]
  dsimp only
  obtain hnone | ⟨b, hb, hquote, -, -, hbrace⟩ := Cursor.peek?_of_stops h
  · rw [hnone]
    exact ⟨_, rfl⟩
  · rw [hb]
    dsimp only
    rw [hquote, hbrace]
    exact ⟨_, rfl⟩

/-! ## What is cut off -/

/-- What **objects that broke off** leave behind one another: braces, and perhaps a quote behind the
last of them, but no mark behind the quote. -/
inductive Stumps : Bytes → Prop
  | nil : Stumps []
  | brace {q : Bytes} (h : Stumps q) : Stumps (0x7B :: q)
  | quote {rest : Bytes} (h : Stops isMark rest) : Stumps (0x7B :: 0x22 :: rest)

/-- They are nothing, or begin with a brace. -/
theorem Stumps.eq_nil_or (h : Stumps q) : q = [] ∨ ∃ rest, q = 0x7B :: rest := by
  cases h with
  | nil => exact .inl rfl
  | brace | quote => exact .inr ⟨_, rfl⟩

/-- They do not begin with a mark. -/
theorem Stumps.stops (h : Stumps q) : Stops isMark q := by
  obtain rfl | ⟨rest, rfl⟩ := h.eq_nil_or
  · exact Stops.nil
  · exact Stops.cons (by decide) rest

/-- Whether a text is **cut**: only a part of the front is there, and something else follows. -/
def IsCut (whole q text : Bytes) : Prop := ∃ p, p <+: whole ∧ p ≠ whole ∧ text = p ++ q

/-- Where the first octet is there, the others are cut. -/
theorem IsCut.cons (h : IsCut (b :: whole) q text) :
    text = q ∨ ∃ rest, text = b :: rest ∧ IsCut whole q rest := by
  obtain ⟨p, hp, hne, rfl⟩ := h
  cases p with
  | nil => exact .inl rfl
  | cons a p =>
    obtain ⟨rfl, hbehind⟩ := List.cons_prefix_cons.mp hp
    exact .inr ⟨p ++ q, rfl, p, hbehind, fun he => hne (congrArg (a :: ·) he), rfl⟩

/-- Nothing cannot be cut. -/
theorem not_isCut_nil : ¬ IsCut [] q text := by
  rintro ⟨p, hp, hne, -⟩
  exact hne (List.prefix_nil.mp hp)

/-! ## Strings that break off -/

/-- A string that goes on with a backslash **goes on with an escape**. -/
theorem IsContents.of_backslash {contents left : Bytes} (h : IsContents contents)
    (heq : 0x5C :: text = contents ++ 0x22 :: left) :
    (∃ letter value others, letters.lookup letter = some value ∧ IsContents others
      ∧ text = letter :: (others ++ 0x22 :: left))
    ∨ ∃ x₁ x₂ x₃ x₄ n others, IsUnit x₁ x₂ x₃ x₄ n ∧ IsContents others
      ∧ text = 0x75 :: x₁ :: x₂ :: x₃ :: x₄ :: (others ++ 0x22 :: left) := by
  cases h with
  | nil => cases heq
  | plain hb => exact absurd (List.cons.inj heq).1.symm hb.2.2
  | letter hl h => exact .inl ⟨_, _, _, hl, h, (List.cons.inj heq).2⟩
  | unit hx h => exact .inr ⟨_, _, _, _, _, _, hx, h, (List.cons.inj heq).2⟩

/-- A brace is no digit. -/
theorem Stumps.ne_hex (hq : Stumps q) {n : Nat} (hb : IsHex b n) (rest : Bytes) :
    q ≠ b :: rest := by
  rintro rfl
  obtain h | ⟨_, h⟩ := hq.eq_nil_or
  · cases h
  · obtain rfl := (List.cons.inj h).1
    have hnone : hexValue? 0x7B = none := by decide
    rw [hexValue?_eq_some_iff.mpr hb] at hnone
    cases hnone

/-- Behind a backslash there is **no brace**. -/
theorem Stumps.not_escape (hq : Stumps q) {contents left : Bytes} (h : IsContents contents) :
    0x5C :: q ≠ contents ++ 0x22 :: left := by
  intro heq
  obtain rfl | ⟨rest, rfl⟩ := hq.eq_nil_or
  · obtain ⟨_, _, _, -, -, he⟩ | ⟨_, _, _, _, _, _, -, -, he⟩ := h.of_backslash heq <;> cases he
  · obtain ⟨_, _, _, hl, -, he⟩ | ⟨_, _, _, _, _, _, -, -, he⟩ := h.of_backslash heq
    · cases he
      cases hl
    · cases he

/-- Behind the quote that ends a string **in what was left** there is no mark. -/
theorem Stumps.stops_of_contents (hq : Stumps q) {contents left : Bytes} (h : IsContents contents)
    (heq : q = contents ++ 0x22 :: left) : Stops isMark left := by
  induction hq generalizing contents with
  | nil => cases contents <;> cases heq
  | brace _ ih =>
    cases h with
    | nil => cases heq
    | plain _ h' => exact ih h' (List.cons.inj heq).2
    | letter | unit => cases heq
  | quote hstops =>
    cases h with
    | nil => cases heq
    | letter | unit => cases heq
    | plain _ h' =>
      have htail := (List.cons.inj heq).2
      cases h' with
      | nil => rwa [← (List.cons.inj htail).2]
      | plain hb => exact absurd (List.cons.inj htail).1.symm hb.2.1
      | letter | unit => cases htail

/-- **Behind the quote that ends a string which broke off** there is no mark. The induction is on
what the string would have been; an escape that broke off cannot go on with a brace. -/
theorem IsContents.stops_of_prefix {contents left : Bytes} (h : IsContents whole)
    (hp : p <+: whole) (hq : Stumps q) (h' : IsContents contents)
    (heq : p ++ q = contents ++ 0x22 :: left) : Stops isMark left := by
  induction h generalizing p contents with
  | nil =>
    obtain rfl := List.prefix_nil.mp hp
    exact hq.stops_of_contents h' heq
  | @plain b whole hb _ ih =>
    cases p with
    | nil => exact hq.stops_of_contents h' heq
    | cons a p =>
      obtain ⟨rfl, hbehind⟩ := List.cons_prefix_cons.mp hp
      cases h' with
      | nil => exact absurd (List.cons.inj heq).1 hb.2.1
      | plain _ h' => exact ih hbehind h' (List.cons.inj heq).2
      | letter | unit => exact absurd (List.cons.inj heq).1 hb.2.2
  | @letter letter value whole hl _ ih =>
    match p with
    | [] => exact hq.stops_of_contents h' heq
    | [a] =>
      obtain ⟨rfl, -⟩ := List.cons_prefix_cons.mp hp
      exact absurd heq (hq.not_escape h')
    | a :: l :: p =>
      obtain ⟨rfl, hescape⟩ := List.cons_prefix_cons.mp hp
      obtain ⟨rfl, hbehind⟩ := List.cons_prefix_cons.mp hescape
      obtain ⟨_, _, _, -, h', he⟩ | ⟨_, _, _, _, _, _, -, -, he⟩ := h'.of_backslash heq
      · exact ih hbehind h' (List.cons.inj he).2
      · obtain rfl := (List.cons.inj he).1
        cases hl
  | @unit x₁ x₂ x₃ x₄ n whole hx _ ih =>
    match p with
    | [] => exact hq.stops_of_contents h' heq
    | [a] =>
      obtain ⟨rfl, -⟩ := List.cons_prefix_cons.mp hp
      exact absurd heq (hq.not_escape h')
    | a :: u :: p =>
      obtain ⟨rfl, hescape⟩ := List.cons_prefix_cons.mp hp
      obtain ⟨rfl, hdigits⟩ := List.cons_prefix_cons.mp hescape
      obtain ⟨_, _, _, hl, -, he⟩ | ⟨y₁, y₂, y₃, y₄, m, _, hy, h', he⟩ := h'.of_backslash heq
      · obtain rfl := (List.cons.inj he).1
        cases hl
      obtain ⟨_, _, _, _, hy₁, hy₂, hy₃, hy₄, -⟩ := hy
      have he := (List.cons.inj he).2
      -- the octet behind the digits that are there has to be a digit, and is a brace
      rcases p with _ | ⟨a₁, _ | ⟨a₂, _ | ⟨a₃, _ | ⟨a₄, p⟩⟩⟩⟩
      · exact absurd he (hq.ne_hex hy₁ _)
      · exact absurd (List.cons.inj he).2 (hq.ne_hex hy₂ _)
      · exact absurd (List.cons.inj (List.cons.inj he).2).2 (hq.ne_hex hy₃ _)
      · exact absurd (List.cons.inj (List.cons.inj (List.cons.inj he).2).2).2 (hq.ne_hex hy₄ _)
      · have hbehind : a₁ :: a₂ :: a₃ :: a₄ :: (p ++ q) = y₁ :: y₂ :: y₃ :: y₄ :: _ := he
        simp only [List.cons_prefix_cons] at hdigits
        simp only [List.cons.injEq] at hbehind
        exact ih hdigits.2.2.2.2 h' hbehind.2.2.2.2

/-- **A string that is cut** cannot be read up to where it should end: either there is no mark
behind what is read, or what is behind the string is cut. -/
theorem left_of_isCut {contents : Bytes} {s : String} (hspells : Spells contents s) (hq : Stumps q)
    (hc : IsCut (contents ++ 0x22 :: rest) q c.rest) {r : Read String c}
    (hread : readContents c = .ok r) :
    Stops isMark r.left.rest ∨ r.value = s ∧ IsCut rest q r.left.rest := by
  obtain ⟨p, hp, hne, htext⟩ := hc
  obtain ⟨others, hothers, hothersSpell⟩ := spells_of_readContents hread
  have hcontents := SpellsOctets.isContents hspells
  -- what is there ends within the string, or has all of it and perhaps its quote
  obtain hp | ⟨behind, rfl⟩ := List.prefix_or_prefix_of_prefix hp (List.prefix_append contents _)
  · exact .inl (hcontents.stops_of_prefix hp hq (SpellsOctets.isContents hothersSpell)
      (htext.symm.trans hothers))
  · rw [List.prefix_append_right_inj] at hp
    cases behind with
    | nil =>
      rw [List.append_nil] at htext
      exact .inl (hcontents.stops_of_prefix (List.prefix_refl _) hq
        (SpellsOctets.isContents hothersSpell) (htext.symm.trans hothers))
    | cons a behind =>
      obtain ⟨rfl, hbehind⟩ := List.cons_prefix_cons.mp hp
      rw [List.append_assoc] at htext
      obtain ⟨read, hok, hvalue, hleft⟩ := hspells.gives htext
      rw [hread] at hok
      cases hok
      exact .inr ⟨hvalue, behind, hbehind, fun he => hne (by rw [he]), hleft⟩

/-! ## Members that break off -/

section Objects

variable {fields : Fields σ} {start : Cursor} {first : Bool} {s : σ} {name : String}

/-- A record whose fields are all **read as strings**, whatever is made of the strings. -/
def Fields.AreStrings (fields : Fields σ) : Prop :=
  ∀ {name : String} {s : σ} {c : Cursor} {r : Read σ c}, fields.read name s c = .ok r →
    ∃ expected, ∃ v : Read String c, readString expected c = .ok v ∧ v.left = r.left

/-- Where no name and no end is, no members are read. -/
theorem fails_readMembers (le : c.rest.length ≤ start.rest.length)
    (h : ∃ e, Fields.nextName first c = .error e) :
    ∃ e, fields.readMembers first s c le = .error e := by
  obtain ⟨e, he⟩ := h
  exact ⟨e, by rw [Fields.readMembers, he]⟩

/-- Nor are they if reading **fails behind the member** that comes next, however it is read. -/
theorem fails_readMembers_of_behind (le : c.rest.length ≤ start.rest.length)
    (hname : Gives (Fields.nextName first c) true (0x22 :: text))
    (hbehind : ∀ d : Cursor, d.rest = text → ∀ key, readContents d = .ok key →
      ∀ member, fields.readMember key.value s key.left = .ok member →
      ∀ le' : member.left.rest.length ≤ start.rest.length,
        ∃ e, fields.readMembers false member.value member.left le' = .error e) :
    ∃ e, fields.readMembers first s c le = .error e := by
  obtain ⟨read, hok, hvalue, hleft⟩ := hname
  have hpeek := Cursor.peek?_of_rest hleft
  rw [Fields.readMembers, hok]
  dsimp only
  split
  · next hnone =>
    rw [hnone] at hpeek
    cases hpeek
  rw [hvalue, if_pos rfl]
  cases hkey : readContents read.left.next with
  | error e => exact ⟨e, rfl⟩
  | ok key =>
    dsimp only
    cases hmember : fields.readMember key.value s key.left with
    | error e => exact ⟨e, rfl⟩
    | ok member => exact hbehind _ (Cursor.next_rest hleft) key hkey member hmember _

/-- Without a colon there is no member. -/
theorem fails_readMember (h : Stops isMark c.rest) :
    ∃ e, fields.readMember name s c = .error e := by
  obtain ⟨e, he⟩ := fails_takeColon h
  unfold Fields.readMember
  split
  · split
    · exact ⟨_, rfl⟩
    · exact ⟨e, by rw [he]; rfl⟩
  · exact ⟨e, by rw [he]; rfl⟩

/-- Behind a name that the record knows there are **a colon and a string**. -/
theorem strings_of_readMember (strings : fields.AreStrings)
    (hknown : fields.names.contains name = true) {member : Read σ c}
    (h : fields.readMember name s c = .ok member) :
    ∃ colon, Fields.takeColon c = .ok colon ∧ ∃ expected, ∃ v : Read String colon.left,
      readString expected colon.left = .ok v ∧ v.left = member.left := by
  unfold Fields.readMember at h
  rw [if_pos hknown] at h
  split at h
  · cases h
  · obtain ⟨colon, hcolon, h⟩ := exists_of_bind_eq_ok h
    obtain ⟨value, hvalue, h⟩ := exists_of_bind_eq_ok h
    obtain rfl := Except.ok.inj h
    obtain ⟨expected, v, hv, hleft⟩ := strings hvalue
    exact ⟨colon, hcolon, expected, v, hv, hleft⟩

/-- **A member that is cut** leaves no mark behind it, or else it is there and what follows it is
cut. -/
theorem left_of_member (strings : fields.AreStrings) {m : String × String}
    (hknown : fields.names.contains m.1 = true) (hq : Stumps q)
    (hc : IsCut (m.1.toList.flatMap quoteChar ++ 0x22 :: 0x3A :: (quote m.2 ++ rest)) q c.rest)
    {key : Read String c} (hkey : readContents c = .ok key) {member : Read σ key.left}
    (hmember : fields.readMember key.value s key.left = .ok member) :
    Stops isMark member.left.rest ∨ IsCut rest q member.left.rest := by
  have hfails {α : Type} {r : Except Error α} {a : α} (hok : r = .ok a)
      (he : ∃ e, r = .error e) : False := by
    obtain ⟨e, he⟩ := he
    rw [hok] at he
    cases he
  -- name, colon and value in turn: each of them is there, or reading fails where it should be
  obtain hstops | ⟨hname, hcolonCut⟩ := left_of_isCut (spells_quoteChar m.1) hq hc hkey
  · exact (hfails hmember (fails_readMember hstops)).elim
  rw [hname] at hmember
  obtain ⟨colon, hcolon, expected, v, hv, hleft⟩ :=
    strings_of_readMember strings hknown hmember
  rw [← hleft]
  obtain hrest | ⟨behind, hrest, hvalueCut⟩ := hcolonCut.cons
  · exact (hfails hcolon (fails_takeColon (hrest ▸ hq.stops))).elim
  obtain ⟨_, hok, -, hbehind⟩ := takeColon_gives Blank.nil hrest
  rw [hcolon] at hok
  cases hok
  rw [quote_append] at hvalueCut
  obtain hnone | ⟨inside, hquote, hcut⟩ := hvalueCut.cons
  · exact (hfails hv (fails_readString expected (hbehind ▸ hnone ▸ hq.stops))).elim
  have hspaces := Cursor.spaces_rest Blank.nil (hbehind.trans hquote) (by decide)
  unfold readString at hv
  rw [Cursor.peek?_of_rest hspaces] at hv
  obtain ⟨contents, hcontents, hv⟩ := exists_of_bind_eq_ok hv
  obtain rfl := Except.ok.inj hv
  rw [← Cursor.next_rest hspaces] at hcut
  exact (left_of_isCut (spells_quoteChar m.2) hq hcut hcontents).imp_right And.right

/-- Reading fails where **the next member is cut**, if it does behind it. -/
theorem fails_of_member (strings : fields.AreStrings) {m : String × String}
    (hknown : fields.names.contains m.1 = true) (hq : Stumps q)
    (le : c.rest.length ≤ start.rest.length)
    (hname : Gives (Fields.nextName first c) true (0x22 :: text))
    (hcut : IsCut (m.1.toList.flatMap quoteChar ++ 0x22 :: 0x3A :: (quote m.2 ++ rest)) q text)
    (hbehind : ∀ (t : σ) (d : Cursor) (le' : d.rest.length ≤ start.rest.length),
      IsCut rest q d.rest → ∃ e, fields.readMembers false t d le' = .error e) :
    ∃ e, fields.readMembers first s c le = .error e := by
  refine fails_readMembers_of_behind le hname fun d hd key hkey member hmember le' => ?_
  obtain hstops | hcut := left_of_member strings hknown hq (hd ▸ hcut) hkey hmember
  · exact fails_readMembers le' (fails_nextName false hstops)
  · exact hbehind _ _ le' hcut

/-- **Members that are cut** are not read. -/
theorem fails_of_furtherMembers (strings : fields.AreStrings) {ms : List (String × String)}
    (hknown : ∀ m ∈ ms, fields.names.contains m.1 = true) (hq : Stumps q)
    (le : c.rest.length ≤ start.rest.length)
    (hcut : IsCut (furtherMembers ms ++ [0x7D]) q c.rest) :
    ∃ e, fields.readMembers false s c le = .error e := by
  induction ms generalizing s c with
  | nil =>
    obtain hrest | ⟨_, -, hcut⟩ := hcut.cons
    · exact fails_readMembers le (fails_nextName false (hrest ▸ hq.stops))
    · exact absurd hcut not_isCut_nil
  | cons m ms ih =>
    rw [furtherMembers, List.flatMap_cons, List.append_assoc, List.cons_append,
      member_append] at hcut
    obtain hrest | ⟨text, hrest, hnameCut⟩ := hcut.cons
    · exact fails_readMembers le (fails_nextName false (hrest ▸ hq.stops))
    obtain hnone | ⟨inside, hquote, hinside⟩ := hnameCut.cons
    · exact fails_readMembers le (fails_nextName_comma hrest (hnone ▸ hq.stops))
    rw [hquote] at hrest
    exact fails_of_member strings (hknown m List.mem_cons_self) hq le
      (nextName_further Blank.nil Blank.nil hrest) hinside
      fun t d le' => ih (fun m' hm' => hknown m' (List.mem_cons_of_mem m hm')) le'

/-- **An object that breaks off** and goes on as other objects do is no record. -/
theorem fails_of_isCut (strings : fields.AreStrings) {m : String × String}
    {ms : List (String × String)} (hknown : ∀ m' ∈ m :: ms, fields.names.contains m'.1 = true)
    (hp : p <+: object (m :: ms)) (hne : p ≠ object (m :: ms)) (hpos : p ≠ []) (hq : Stumps q) :
    ∃ e, fields.read? s (p ++ q) = .error e := by
  obtain ⟨b, p, rfl⟩ := List.exists_cons_of_ne_nil hpos
  have hobject : object (m :: ms) = 0x7B :: (member m ++ (furtherMembers ms ++ [0x7D])) := by
    rw [object, List.append_assoc]
    rfl
  rw [hobject] at hp hne
  obtain ⟨rfl, hbehind⟩ := List.cons_prefix_cons.mp hp
  have hcut : IsCut (member m ++ (furtherMembers ms ++ [0x7D])) q (p ++ q) :=
    ⟨p, hbehind, fun he => hne (congrArg (0x7B :: ·) he), rfl⟩
  have hstart : (Cursor.start (0x7B :: p ++ q)).rest = 0x7B :: (p ++ q) := rfl
  have hspaces := Cursor.spaces_rest Blank.nil hstart (by decide)
  have hnext := Cursor.next_rest hspaces
  have hmembers : ∃ e, fields.readMembers true s (Cursor.start (0x7B :: p ++ q)).spaces.next
      (Cursor.le_refl _) = .error e := by
    rw [member_append] at hcut
    obtain hnone | ⟨inside, hquote, hinside⟩ := hcut.cons
    · refine fails_readMembers _ (fails_nextName true ?_)
      rw [hnext, hnone]
      exact hq.stops
    · exact fails_of_member strings (hknown m List.mem_cons_self) hq _
        (nextName_first Blank.nil (hnext.trans hquote)) hinside fun t d le' =>
          fails_of_furtherMembers strings (fun m' hm' => hknown m' (List.mem_cons_of_mem m hm')) hq
            le'
  obtain ⟨e, he⟩ := hmembers
  refine ⟨e, ?_⟩
  unfold Fields.read? Fields.readRecord
  rw [Cursor.peek?_of_rest hspaces]
  dsimp only
  rw [if_neg (by decide), if_pos (by decide), he]
  rfl

/-- **An object with another behind it** is no record. -/
theorem fails_of_filled {t : σ} {ms : List (String × String)} (h : Filled fields s ms t)
    (hlacking : fields.lacking t = none) (hq : Stumps q) (hpos : q ≠ []) :
    ∃ e, fields.read? s (object ms ++ q) = .error e := by
  obtain ⟨read, hok, rfl, hrest⟩ :=
    readRecord_filled (c := Cursor.start (object ms ++ q)) h hlacking rfl
  have hspaces := Cursor.spaces_of_stops (hrest ▸ hq.stops)
  obtain ⟨b, q, rfl⟩ := List.exists_cons_of_ne_nil hpos
  unfold Fields.read?
  simp only [hok, bind, Except.bind, Cursor.peek?_of_rest (hspaces.trans hrest)]
  exact ⟨_, rfl⟩

end Objects

end RecordRelay.Json
