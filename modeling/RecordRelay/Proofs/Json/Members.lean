import RecordRelay.Proofs.Json.Skipped

/-!
# Objects in any spelling

An object is a list of **members** between braces, each a name in some spelling and a value, with
blanks wherever they may stand. A `Member` and an `ObjectText` carry the facts that make them such,
and nothing is asked of the names: one may come twice.

What a record of texts makes of a list of members is told by `Fields.tell`, member by member: a name
that the record does not know changes nothing, a name that it knows must not have come before and
must hold a text. Reading an object gives what its members tell (`read?_octets_of_some`) and fails if they
tell nothing (`read?_octets_append_of_none`). Behind the object there may be blanks, and if there is
anything else the text is refused (`read?_trailing`).
-/

namespace RecordRelay.Json

variable {α σ : Type} {c : Cursor} {b : UInt8} {rest : Bytes}

/-! ## Going from member to member -/

section Steps

variable {blank : Bytes} (hblank : Blank blank)
include hblank

/-- The first name stands behind the brace. -/
theorem nextName_first (h : c.rest = blank ++ 0x22 :: rest) :
    Gives (Fields.nextName true c) true (0x22 :: rest) := by
  have hspaces := Cursor.spaces_rest hblank h (by decide)
  unfold Fields.nextName
  rw [Cursor.peek?_of_rest hspaces]
  exact ⟨_, rfl, rfl, hspaces⟩

/-- Further names stand behind a comma. -/
theorem nextName_further {before : Bytes} (hbefore : Blank before)
    (h : c.rest = blank ++ 0x2C :: (before ++ 0x22 :: rest)) :
    Gives (Fields.nextName false c) true (0x22 :: rest) := by
  have hspaces := Cursor.spaces_rest hblank h (by decide)
  have hname := Cursor.spaces_rest hbefore (Cursor.next_rest hspaces) (by decide)
  unfold Fields.nextName
  rw [Cursor.peek?_of_rest hspaces]
  dsimp only
  rw [Cursor.peek?_of_rest hname]
  exact ⟨_, rfl, rfl, hname⟩

/-- A brace ends the object. -/
theorem nextName_end (first : Bool) (h : c.rest = blank ++ 0x7D :: rest) :
    Gives (Fields.nextName first c) false (0x7D :: rest) := by
  have hspaces := Cursor.spaces_rest hblank h (by decide)
  unfold Fields.nextName
  rw [Cursor.peek?_of_rest hspaces]
  exact ⟨_, rfl, rfl, hspaces⟩

/-- The colon is taken. -/
theorem takeColon_gives (h : c.rest = blank ++ 0x3A :: rest) :
    Gives (Fields.takeColon c) () rest := by
  have hspaces := Cursor.spaces_rest hblank h (by decide)
  unfold Fields.takeColon
  rw [Cursor.peek?_of_rest hspaces]
  exact ⟨_, rfl, rfl, Cursor.next_rest hspaces⟩

end Steps

section Members

variable {fields : Fields σ} {start : Cursor} {first : Bool} {s t : σ} {contents behind : Bytes}
  {name : String} (le : c.rest.length ≤ start.rest.length)

/-- **Where a member follows**, its name is read, and then what is known of the name decides. -/
theorem readMembers_of_name (fields : Fields σ) (s : σ)
    (hname : Gives (Fields.nextName first c) true (0x22 :: (contents ++ 0x22 :: behind)))
    (hspells : Spells contents name) :
    ∃ (d : Cursor) (led : d.rest.length ≤ start.rest.length), d.rest = behind
      ∧ fields.readMembers first s c le
        = match fields.readMember name s d with
          | .error e => .error e
          | .ok member =>
            fields.readMembers false member.value member.left
              (Nat.le_trans member.left_le led) := by
  obtain ⟨read, hok, hvalue, hleft⟩ := hname
  have hpeek := Cursor.peek?_of_rest hleft
  obtain ⟨key, hkey, rfl, hbehind⟩ := hspells.gives (Cursor.next_rest hleft)
  have hle := Nat.le_trans key.left_le
    (Nat.le_trans read.left.next_le (Nat.le_trans read.left_le le))
  refine ⟨key.left, hle, hbehind, ?_⟩
  rw [Fields.readMembers, hok]
  dsimp only
  split
  · next hnone =>
    rw [hnone] at hpeek
    cases hpeek
  · rw [hvalue, if_pos rfl, hkey]
    dsimp only
    cases fields.readMember key.value s key.left <;> rfl

/-- **One member further**: the member is read, and reading goes on behind it. -/
theorem readMembers_next
    (hname : Gives (Fields.nextName first c) true (0x22 :: (contents ++ 0x22 :: behind)))
    (hspells : Spells contents name)
    (hmember : ∀ d : Cursor, d.rest = behind → Gives (fields.readMember name s d) t rest) :
    ∃ d le', d.rest = rest
      ∧ fields.readMembers first s c le = fields.readMembers false t d le' := by
  obtain ⟨d, led, hd, hstep⟩ := readMembers_of_name le fields s hname hspells
  obtain ⟨member, hread, rfl, hrest⟩ := hmember d hd
  refine ⟨member.left, Nat.le_trans member.left_le led, hrest, ?_⟩
  rw [hstep, hread]

/-- **A member that cannot be read** ends the reading. -/
theorem readMembers_error
    (hname : Gives (Fields.nextName first c) true (0x22 :: (contents ++ 0x22 :: behind)))
    (hspells : Spells contents name)
    (hmember : ∀ d : Cursor, d.rest = behind → ∃ e, fields.readMember name s d = .error e) :
    ∃ e, fields.readMembers first s c le = .error e := by
  obtain ⟨d, led, hd, hstep⟩ := readMembers_of_name le fields s hname hspells
  obtain ⟨e, he⟩ := hmember d hd
  exact ⟨e, by rw [hstep, he]⟩

/-- The end of the object is the end of reading, if nothing is lacking. -/
theorem readMembers_end (hname : Gives (Fields.nextName first c) false (0x7D :: rest))
    (hlacking : fields.lacking s = none) :
    Gives (fields.readMembers first s c le) s rest := by
  obtain ⟨read, hok, hvalue, hleft⟩ := hname
  have hpeek := Cursor.peek?_of_rest hleft
  refine ⟨(Read.step s read.left).since (Nat.le_trans read.left_le le), ?_, rfl,
    Cursor.next_rest hleft⟩
  rw [Fields.readMembers, hok]
  dsimp only
  split
  · next hnone =>
    rw [hnone] at hpeek
    cases hpeek
  · rw [hvalue, if_neg (by decide), hlacking]

end Members

/-! ## Objects -/

/-- Blanks. -/
structure Blanks where
  /-- The octets. -/
  octets : Bytes
  /-- All of them are blank. -/
  blank : Blank octets

/-- **What a member holds**: a text in some spelling, or a value that is no text. -/
inductive Held where
  /-- A text. -/
  | text (contents : Bytes) (s : String) (spells : Spells contents s)
  /-- A value of another kind, or a string that spells no text. -/
  | other (octets : Bytes) (value : IsValue octets)
    (notText : ∀ contents s, Spells contents s → octets ≠ 0x22 :: (contents ++ [0x22]))

/-- The octets of what a member holds. -/
def Held.octets : Held → Bytes
  | text contents _ _ => 0x22 :: (contents ++ [0x22])
  | other octets _ _ => octets

/-- The text that a member holds, if it holds one. -/
def Held.text? : Held → Option String
  | text _ s _ => some s
  | other _ _ _ => none

/-- Either is a value. -/
theorem Held.isValue (h : Held) : IsValue h.octets := by
  cases h with
  | text contents s spells => exact .string (SpellsOctets.isContents spells)
  | other octets value notText => exact value

/-- A **member** of an object. -/
structure Member where
  /-- Blanks before the name. -/
  before : Blanks
  /-- The name. -/
  name : String
  /-- The spelling of the name. -/
  contents : Bytes
  /-- It spells the name. -/
  spells : Spells contents name
  /-- Blanks before the colon. -/
  colon : Blanks
  /-- Blanks before the value. -/
  gap : Blanks
  /-- The value. -/
  held : Held
  /-- Blanks behind the value. -/
  after : Blanks

/-- The octets of a member from behind the spelling of its name. -/
def Member.behind (m : Member) : Bytes :=
  m.colon.octets ++ 0x3A :: (m.gap.octets ++ (m.held.octets ++ m.after.octets))

/-- The octets of a member. -/
def Member.octets (m : Member) : Bytes :=
  m.before.octets ++ 0x22 :: (m.contents ++ 0x22 :: m.behind)

/-- A text that is **an object**. -/
structure ObjectText where
  /-- Blanks before the object. -/
  before : Blanks
  /-- Blanks between the braces if there is no member. -/
  inside : Blanks
  /-- The members. -/
  members : List Member
  /-- Blanks behind the object. -/
  after : Blanks

/-- The octets of an object up to its end. -/
def ObjectText.upToEnd (o : ObjectText) : Bytes :=
  o.before.octets ++ 0x7B :: (listed o.inside.octets (o.members.map Member.octets) ++ [0x7D])

/-- The octets of a text that is an object. -/
def ObjectText.octets (o : ObjectText) : Bytes := o.upToEnd ++ o.after.octets

/-! ## What members tell -/

/-- A record whose fields **are texts**: each is read as a string and then put in its place, and none
is ever lacking. -/
structure Fields.AreTexts (fields : Fields σ) (put : String → σ → String → σ) : Prop where
  /-- A field is read as a string. -/
  read_eq : ∃ expected, ∀ name s c, fields.read name s c
    = (do return (← readString expected c).map (put name s))
  /-- The record may end anywhere. -/
  lacking : ∀ s, fields.lacking s = none

/-- **What a member tells** a record: nothing if its name is not known; its text if it has one and
the name did not come before; else the record is refused. -/
def Fields.tell (fields : Fields σ) (put : String → σ → String → σ) (s : σ) (m : Member) :
    Option σ :=
  if fields.names.contains m.name then
    if fields.has s m.name then none else m.held.text?.map (put m.name s)
  else some s

/-- A reader gives what was told, and fails if nothing was. -/
def Answers (r : Except Error (Read α c)) (told : Option α) (rest : Bytes) : Prop :=
  match told with
  | some a => Gives r a rest
  | none => ∃ e, r = .error e

/-- **A value that is no text is refused** where a text is due. A string among them would have to end
at the quote where it ends, and spell no text there. -/
theorem readString_other {blank octets : Bytes} (hblank : Blank blank) (hvalue : IsValue octets)
    (hnot : ∀ contents s, Spells contents s → octets ≠ 0x22 :: (contents ++ [0x22]))
    (expected : String) (hc : c.rest = blank ++ (octets ++ rest)) :
    ∃ e, readString expected c = .error e := by
  obtain ⟨b, tail, rfl, hspace, -⟩ := hvalue.exists_cons
  have hspaces := Cursor.spaces_rest hblank hc hspace
  unfold readString
  rw [Cursor.peek?_of_rest hspaces]
  dsimp only
  split
  · next hquote =>
    obtain rfl := beq_iff_eq.mp hquote
    obtain ⟨contents, rfl, hcontents⟩ := hvalue.exists_contents
    cases hread : readContents c.spaces.next with
    | error e => exact ⟨e, rfl⟩
    | ok read =>
      obtain ⟨others, hothers, hspells⟩ := spells_of_readContents hread
      have hsame : contents ++ 0x22 :: rest = others ++ 0x22 :: read.left.rest :=
        (List.append_assoc contents [0x22] rest).symm.trans
          ((Cursor.next_rest hspaces).symm.trans hothers)
      obtain ⟨rfl, -⟩ := hcontents.unique (SpellsOctets.isContents hspells) hsame
      exact absurd rfl (hnot contents _ hspells)
  · exact ⟨_, rfl⟩

section Records

variable {fields : Fields σ} {put : String → σ → String → σ} {s : σ}

/-- Members behind the first one, each with a comma before it, and the end of the object. -/
def further (ms : List Member) (rest : Bytes) : Bytes :=
  (ms.map Member.octets).flatMap (0x2C :: ·) ++ 0x7D :: rest

/-- What follows a member does not go on with a number. -/
theorem Member.stops (m : Member) (ms : List Member) (rest : Bytes) :
    Stops goesOn (m.after.octets ++ further ms rest) :=
  m.after.blank.stops (stops_further _ .object rest)

/-- **The value behind a name** is read as the member tells. -/
theorem readMember_answers (texts : fields.AreTexts put) (m : Member)
    (hends : Stops goesOn (m.after.octets ++ rest)) (hc : c.rest = m.behind ++ rest) :
    Answers (fields.readMember m.name s c) (fields.tell put s m) (m.after.octets ++ rest) := by
  obtain ⟨expected, hread⟩ := texts.read_eq
  have hcolon : c.rest = m.colon.octets ++ 0x3A
      :: (m.gap.octets ++ (m.held.octets ++ (m.after.octets ++ rest))) := by
    rw [hc, Member.behind]
    simp only [List.append_assoc, List.cons_append]
  obtain ⟨colon, hok, -, hleft⟩ := takeColon_gives m.colon.blank hcolon
  unfold Fields.readMember Fields.tell
  split
  · split
    · exact ⟨_, rfl⟩
    · rw [hok]
      cases hheld : m.held with
      | text contents s' spells =>
        rw [hheld, Held.octets, List.cons_append, List.append_assoc] at hleft
        obtain ⟨value, hvalue, rfl, hrest⟩ :=
          spells.readString_gives expected m.gap.blank hleft
        refine ⟨(value.map (put m.name s)).since colon.left_le, ?_, rfl, hrest⟩
        simp only [bind, Except.bind, hread, hvalue]
        rfl
      | other octets value notText =>
        rw [hheld] at hleft
        obtain ⟨e, he⟩ := readString_other m.gap.blank value notText expected hleft
        refine ⟨e, ?_⟩
        simp only [bind, Except.bind, hread, he]
  · obtain ⟨value, hvalue, -, hrest⟩ := m.held.isValue.gives m.gap.blank hends hleft
    rw [hok]
    refine ⟨(value.map fun _ => s).since colon.left_le, ?_, rfl, hrest⟩
    simp only [bind, Except.bind, hvalue]
    rfl

variable {start : Cursor} (le : c.rest.length ≤ start.rest.length)

/-- **One member further**: what the member tells goes on to what the others tell, and if it tells
nothing there is nothing to go on with. -/
theorem readMembers_answers_cons (texts : fields.AreTexts put) {first : Bool} {m : Member}
    {ms : List Member} {behind : Bytes} (hends : Stops goesOn (m.after.octets ++ behind))
    (hname : Gives (Fields.nextName first c) true
      (0x22 :: (m.contents ++ 0x22 :: (m.behind ++ behind))))
    (others : ∀ (t : σ) (d : Cursor) (le' : d.rest.length ≤ start.rest.length),
      d.rest = m.after.octets ++ behind →
      Answers (fields.readMembers false t d le') (ms.foldlM (fields.tell put) t) rest) :
    Answers (fields.readMembers first s c le) ((m :: ms).foldlM (fields.tell put) s) rest := by
  have hmember := fun (d : Cursor) (hd : d.rest = m.behind ++ behind) =>
    readMember_answers (s := s) texts m hends hd
  rw [List.foldlM_cons]
  cases htell : fields.tell put s m with
  | none =>
    rw [htell] at hmember
    exact readMembers_error le hname m.spells hmember
  | some t =>
    rw [htell] at hmember
    obtain ⟨d, led, hd, hstep⟩ := readMembers_next le hname m.spells hmember
    rw [hstep]
    exact others t d led hd

/-- Members behind the first one are read as they tell. -/
theorem readMembers_told_further (texts : fields.AreTexts put) {ms : List Member} {after : Bytes}
    (hafter : Blank after) (hc : c.rest = after ++ further ms rest) :
    Answers (fields.readMembers false s c le) (ms.foldlM (fields.tell put) s) rest := by
  induction ms generalizing s c after with
  | nil => exact readMembers_end le (nextName_end hafter false hc) (texts.lacking s)
  | cons m ms ih =>
    have hcomma : c.rest = after ++ 0x2C
        :: (m.before.octets ++ 0x22 :: (m.contents ++ 0x22 :: (m.behind ++ further ms rest))) := by
      rw [hc, further, further]
      simp only [List.map_cons, List.flatMap_cons, Member.octets, List.cons_append,
        List.append_assoc]
    exact readMembers_answers_cons le texts (m.stops ms rest)
      (nextName_further hafter m.before.blank hcomma) fun t d led hd => ih led m.after.blank hd

/-- **The members of an object are read** as they tell. -/
theorem readMembers_listed (texts : fields.AreTexts put) {ms : List Member} (inside : Blanks)
    (hc : c.rest = listed inside.octets (ms.map Member.octets) ++ 0x7D :: rest) :
    Answers (fields.readMembers true s c le) (ms.foldlM (fields.tell put) s) rest := by
  cases ms with
  | nil => exact readMembers_end le (nextName_end inside.blank true hc) (texts.lacking s)
  | cons m ms =>
    have hfirst : c.rest = m.before.octets ++ 0x22
        :: (m.contents ++ 0x22 :: (m.behind ++ further ms rest)) := by
      rw [hc, further]
      simp only [List.map_cons, listed, Member.octets, List.cons_append, List.append_assoc]
    exact readMembers_answers_cons le texts (m.stops ms rest)
      (nextName_first m.before.blank hfirst) fun t d led hd =>
        readMembers_told_further led texts m.after.blank hd

/-! ## Reading objects -/

/-- **A record is read from an object** as its members tell, and what follows is left. -/
theorem readRecord_object (texts : fields.AreTexts put) (o : ObjectText)
    (hc : c.rest = o.upToEnd ++ rest) :
    Answers (fields.readRecord s c) (o.members.foldlM (fields.tell put) s) rest := by
  have hopen : c.rest = o.before.octets ++ 0x7B
      :: (listed o.inside.octets (o.members.map Member.octets) ++ 0x7D :: rest) := by
    rw [hc, ObjectText.upToEnd]
    simp only [List.append_assoc, List.cons_append, List.nil_append]
  have hspaces := Cursor.spaces_rest o.before.blank hopen (by decide)
  have hanswers := readMembers_listed (s := s) (Cursor.le_refl _) texts o.inside
    (Cursor.next_rest hspaces)
  unfold Fields.readRecord
  rw [Cursor.peek?_of_rest hspaces]
  dsimp only
  rw [if_neg (by decide), if_pos (by decide)]
  cases htold : o.members.foldlM (fields.tell put) s with
  | none =>
    rw [htold] at hanswers
    obtain ⟨e, he⟩ := hanswers
    refine ⟨e, ?_⟩
    rw [he]
    rfl
  | some t =>
    rw [htold] at hanswers
    obtain ⟨read, hok, rfl, hrest⟩ := hanswers
    rw [hok]
    exact ⟨_, rfl, rfl, hrest⟩

/-- **An object gives what its members tell.** -/
theorem read?_octets_of_some (texts : fields.AreTexts put) (o : ObjectText) {t : σ}
    (htold : o.members.foldlM (fields.tell put) s = some t) :
    fields.read? s o.octets = .ok t := by
  have hstart : (Cursor.start o.octets).rest = o.upToEnd ++ o.after.octets := rfl
  have hanswers := readRecord_object (s := s) texts o hstart
  rw [htold] at hanswers
  obtain ⟨read, hok, rfl, hrest⟩ := hanswers
  have hblank : read.left.rest = o.after.octets ++ [] := by rw [hrest, List.append_nil]
  have hend : read.left.spaces.peek? = none := by
    rw [Cursor.peek?, Cursor.spaces_append o.after.blank hblank Stops.nil]
    rfl
  unfold Fields.read?
  simp only [hok, bind, Except.bind, hend]
  rfl

/-- **An object whose members tell nothing is refused**, whatever stands behind it. -/
theorem read?_octets_append_of_none (texts : fields.AreTexts put) (o : ObjectText)
    (htold : o.members.foldlM (fields.tell put) s = none) (tail : Bytes) :
    ∃ e, fields.read? s (o.octets ++ tail) = .error e := by
  have hstart : (Cursor.start (o.octets ++ tail)).rest = o.upToEnd ++ (o.after.octets ++ tail) :=
    List.append_assoc ..
  have hanswers := readRecord_object (s := s) texts o hstart
  rw [htold] at hanswers
  obtain ⟨e, he⟩ := hanswers
  refine ⟨e, ?_⟩
  unfold Fields.read?
  rw [he]
  rfl

/-- Behind blanks there is something left, if not all of it is blank. -/
theorem Cursor.exists_peek?_spaces (h : ¬ Blank c.rest) : ∃ b, c.spaces.peek? = some b := by
  obtain ⟨octets, position⟩ := c
  show ∃ b, (skipWhile isSpace octets position).peek? = some b
  induction octets generalizing position with
  | nil => exact absurd Blank.nil h
  | cons b octets ih =>
    rw [skipWhile]
    split
    · next hb => exact ih _ fun hblank => h (List.forall_mem_cons.mpr ⟨hb, hblank⟩)
    · exact ⟨b, rfl⟩

/-- **Behind an object there are only blanks**: with anything else the text is refused. -/
theorem read?_trailing (texts : fields.AreTexts put) (o : ObjectText) {tail : Bytes}
    (htail : ¬ Blank tail) : ∃ e, fields.read? s (o.octets ++ tail) = .error e := by
  have hstart : (Cursor.start (o.octets ++ tail)).rest = o.upToEnd ++ (o.after.octets ++ tail) :=
    List.append_assoc ..
  have hanswers := readRecord_object (s := s) texts o hstart
  cases htold : o.members.foldlM (fields.tell put) s with
  | none => exact read?_octets_append_of_none texts o htold tail
  | some t =>
    rw [htold] at hanswers
    obtain ⟨read, hok, -, hrest⟩ := hanswers
    have hleft : ¬ Blank read.left.rest := by
      rw [hrest]
      exact fun hblank => htail fun b hb => hblank b (List.mem_append_right _ hb)
    obtain ⟨b, hb⟩ := Cursor.exists_peek?_spaces hleft
    unfold Fields.read?
    simp only [hok, bind, Except.bind, hb]
    exact ⟨_, rfl⟩

end Records

end RecordRelay.Json
