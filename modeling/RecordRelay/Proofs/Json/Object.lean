import RecordRelay.Proofs.Json.Members
import RecordRelay.Proofs.Json.Written

/-!
# Reading an object back

An object is written without spaces: its members, each a name and a string, stand between braces
with commas between them. What a record makes of such an object is told by `Filled`: member by
member, each of which must be one of the record's own, must not have come before, and must hold a
string that its field reads. An object that fills a record **reads back** (`read?_object`) as what
it fills the record with.
-/

namespace RecordRelay.Json

variable {σ : Type} {fields : Fields σ} {c : Cursor} {rest : Bytes}

/-! ## Writing -/

/-- A name and a string **as a member** of an object. -/
def member (m : String × String) : Bytes := quote m.1 ++ 0x3A :: quote m.2

/-- Members behind the first one, each with a comma before it. -/
def furtherMembers (ms : List (String × String)) : Bytes := ms.flatMap fun m => 0x2C :: member m

/-- An **object** of strings. -/
def object : List (String × String) → Bytes
  | [] => [0x7B, 0x7D]
  | m :: ms => 0x7B :: member m ++ furtherMembers ms ++ [0x7D]

/-- A string begins with a quote. -/
theorem quote_append (s : String) (rest : Bytes) :
    quote s ++ rest = 0x22 :: (s.toList.flatMap quoteChar ++ 0x22 :: rest) := by
  rw [quote, List.append_assoc]
  rfl

/-- What is a member begins with a quote, and so does its value behind the colon. -/
theorem member_append (m : String × String) (rest : Bytes) :
    member m ++ rest
      = 0x22 :: (m.1.toList.flatMap quoteChar ++ 0x22 :: 0x3A :: (quote m.2 ++ rest)) := by
  rw [member, List.append_assoc, quote_append]
  rfl

/-- **An object is written without controls.** -/
theorem noControl_object (ms : List (String × String)) : Bytes.NoControl (object ms) := by
  have hmember : ∀ m, Bytes.NoControl (member m) := fun m => by
    simp only [member, Bytes.noControl_append, Bytes.noControl_cons, noControl_quote]
    decide
  have hfurther : ∀ ms, Bytes.NoControl (furtherMembers ms) := fun ms b hb => by
    obtain ⟨m, -, hm⟩ := List.mem_flatMap.mp hb
    obtain rfl | hm := List.mem_cons.mp hm
    · decide
    · exact hmember m b hm
  cases ms with
  | nil =>
    simp only [object, Bytes.noControl_cons, Bytes.noControl_nil]
    decide
  | cons m ms =>
    simp only [object, Bytes.noControl_append, Bytes.noControl_cons, Bytes.noControl_nil, hmember,
      hfurther]
    decide

/-- **An object is written as a text** that begins with a brace. -/
theorem object_eq_ofString (ms : List (String × String)) :
    ∃ s, object ms = Bytes.ofString ("\x7b" ++ s) := by
  have hmark : ∀ b : UInt8, b < 0x80 → Bytes.IsText [b] := fun b hb =>
    Bytes.isText_of_lt fun c hc => by rwa [List.mem_singleton.mp hc]
  have hmember : ∀ m, Bytes.IsText (member m) := fun m =>
    (isText_quote m.1).append ((hmark 0x3A (by decide)).append (isText_quote m.2))
  have hfurther : ∀ ms, Bytes.IsText (furtherMembers ms) := fun ms =>
    Bytes.isText_flatten fun piece hpiece => by
      obtain ⟨m, -, rfl⟩ := List.mem_map.mp hpiece
      exact (hmark 0x2C (by decide)).append (hmember m)
  have hbehind : ∃ rest, object ms = 0x7B :: rest ∧ Bytes.IsText rest := by
    cases ms with
    | nil => exact ⟨_, rfl, hmark 0x7D (by decide)⟩
    | cons m ms =>
      exact ⟨_, rfl, ((hmember m).append (hfurther ms)).append (hmark 0x7D (by decide))⟩
  obtain ⟨rest, hobject, s, rfl⟩ := hbehind
  exact ⟨s, by rw [hobject, Bytes.ofString_append]; rfl⟩

/-! ## Filling a record -/

/-- A member **fills** a record: it is one of the record's own, it did not come before, and its
string is read into its field. -/
structure Fills (fields : Fields σ) (s : σ) (m : String × String) (t : σ) : Prop where
  /-- The record has a field of this name, -/
  known : fields.names.contains m.1 = true
  /-- which has no value yet -/
  fresh : fields.has s m.1 = false
  /-- and reads the string. -/
  reads : ∀ (c : Cursor) (rest : Bytes), c.rest = quote m.2 ++ rest →
    Gives (fields.read m.1 s c) t rest

/-- Members **fill** a record one after the other. -/
inductive Filled (fields : Fields σ) : σ → List (String × String) → σ → Prop
  | nil (s : σ) : Filled fields s [] s
  | cons {s t u : σ} {m : String × String} {ms : List (String × String)} :
    Fills fields s m t → Filled fields t ms u → Filled fields s (m :: ms) u

/-- The value behind a name is read into its field. -/
theorem Fills.readMember {s t : σ} {m : String × String} (h : Fills fields s m t)
    (hc : c.rest = 0x3A :: (quote m.2 ++ rest)) : Gives (fields.readMember m.1 s c) t rest := by
  obtain ⟨colon, hcolon, -, hleft⟩ := takeColon_gives Blank.nil hc
  obtain ⟨value, hvalue, ht, hrest⟩ := h.reads colon.left rest hleft
  unfold Fields.readMember
  rw [if_pos h.known, h.fresh, hcolon]
  refine ⟨value.since colon.left_le, ?_, ht, hrest⟩
  simp only [Bool.false_eq_true, if_false, bind, Except.bind, hvalue]
  rfl

/-- **One member further**: the member is read, and reading goes on behind it. -/
theorem readMembers_member {start : Cursor} {first : Bool} {s t : σ} {m : String × String}
    (le : c.rest.length ≤ start.rest.length) (h : Fills fields s m t)
    (hname : Gives (Fields.nextName first c) true (member m ++ rest)) :
    ∃ d le', d.rest = rest
      ∧ fields.readMembers first s c le
        = fields.readMembers false t d le' := by
  rw [member_append] at hname
  exact readMembers_next le hname (spells_quoteChar m.1) fun d hd => h.readMember hd

/-- Members behind the first one are read up to the end of the object. -/
theorem readMembers_further {start : Cursor} {s t : σ} {ms : List (String × String)}
    (le : c.rest.length ≤ start.rest.length) (h : Filled fields s ms t)
    (hc : c.rest = furtherMembers ms ++ 0x7D :: rest) (hlacking : fields.lacking t = none) :
    Gives (fields.readMembers false s c le) t rest := by
  induction h generalizing c with
  | nil s => exact readMembers_end le (nextName_end Blank.nil false hc) hlacking
  | @cons s t u m ms hm hms ih =>
    have hcomma : c.rest = 0x2C :: (member m ++ (furtherMembers ms ++ 0x7D :: rest)) := by
      rw [hc, furtherMembers, List.flatMap_cons, List.append_assoc]
      rfl
    have hname : Gives (Fields.nextName false c) true
        (member m ++ (furtherMembers ms ++ 0x7D :: rest)) := by
      rw [member_append] at hcomma ⊢
      exact nextName_further Blank.nil Blank.nil hcomma
    obtain ⟨d, led, hd, hstep⟩ := readMembers_member le hm hname
    rw [hstep]
    exact ih led hd hlacking

/-- The members of an object are read up to its end. -/
theorem readMembers_object {start : Cursor} {s t : σ} {ms : List (String × String)}
    (le : c.rest.length ≤ start.rest.length) (h : Filled fields s ms t)
    (hc : 0x7B :: c.rest = object ms ++ rest) (hlacking : fields.lacking t = none) :
    Gives (fields.readMembers true s c le) t rest := by
  cases h with
  | nil s => exact readMembers_end le (nextName_end Blank.nil true (List.cons.inj hc).2) hlacking
  | @cons s t u m ms hm hms =>
    have hfirst : c.rest = member m ++ (furtherMembers ms ++ 0x7D :: rest) := by
      rw [object, List.append_assoc, List.append_assoc] at hc
      exact (List.cons.inj hc).2
    have hname : Gives (Fields.nextName true c) true
        (member m ++ (furtherMembers ms ++ 0x7D :: rest)) := by
      rw [member_append] at hfirst ⊢
      exact nextName_first Blank.nil hfirst
    obtain ⟨d, led, hd, hstep⟩ := readMembers_member le hm hname
    rw [hstep]
    exact readMembers_further led hms hd hlacking

/-- A record is read from an object that fills it, and what follows is left. -/
theorem readRecord_filled {s t : σ} {ms : List (String × String)} (h : Filled fields s ms t)
    (hlacking : fields.lacking t = none) (hc : c.rest = object ms ++ rest) :
    Gives (fields.readRecord s c) t rest := by
  have hopen : ∃ behind, object ms = 0x7B :: behind := by
    cases ms with
    | nil => exact ⟨_, rfl⟩
    | cons m ms => exact ⟨_, rfl⟩
  obtain ⟨behind, hobject⟩ := hopen
  have hspaces := Cursor.spaces_rest Blank.nil
    (hc.trans (congrArg (· ++ rest) hobject)) (by decide)
  have hnext : 0x7B :: c.spaces.next.rest = object ms ++ rest := by
    rw [Cursor.next_rest hspaces, hobject]
    rfl
  obtain ⟨read, hok, hvalue, hrest⟩ := readMembers_object (Cursor.le_refl _) h hnext hlacking
  unfold Fields.readRecord
  rw [Cursor.peek?_of_rest hspaces]
  dsimp only
  rw [if_neg (by decide), if_pos (by decide), hok]
  exact ⟨_, rfl, hvalue, hrest⟩

/-- **An object reads back** as what it fills the record with. -/
theorem read?_object {s t : σ} {ms : List (String × String)} (h : Filled fields s ms t)
    (hlacking : fields.lacking t = none) : fields.read? s (object ms) = .ok t := by
  obtain ⟨read, hok, rfl, hrest⟩ := readRecord_filled (c := Cursor.start (object ms)) h hlacking
    (List.append_nil _).symm
  have hnone : read.left.spaces.peek? = none := by
    rw [Cursor.spaces, hrest]
    rfl
  unfold Fields.read?
  simp only [hok, bind, Except.bind, hnone]
  rfl

end RecordRelay.Json
