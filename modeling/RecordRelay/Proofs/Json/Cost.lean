import RecordRelay.Proofs.Json.Members
import RecordRelay.Proofs.Json.Object

/-!
# What a record costs

A text that gives a record has to spell what the record says, and that takes octets: a string takes
two quotes and at least its own octets, a list takes two brackets and a comma between two values,
and an object takes the names on top, with their quotes and colons. So a *weight* of a record that
is paid for value by value is paid for by the whole text. In a list a value may weigh one octet more
than it takes, its comma, and in an object as much more as its name and the punctuation around it
(`weight_of_list`, `weight_of_object`).

The comma is the delicate part. There is one less of them than there are values, so the bounds for
the loops say that one octet is still owed behind the first value.

A list of texts that is written without blanks costs no more than that, and it reads back
(`read?_list`).
-/

namespace RecordRelay.Json

open Bytes

variable {σ : Type} {c : Cursor} {b : UInt8} {rest : Bytes}

/-! ## Strings -/

/-- An escape has **no fewer octets** than it stands for. -/
theorem Escapes.length_le {escape value : Bytes} (h : Escapes escape value) :
    value.length ≤ escape.length := by
  cases h with
  | letter => exact Nat.le_refl 1
  | unit => exact Nat.le_trans (length_codePoint_le _) (Nat.le_add_left 4 1)
  | pair => exact Nat.le_trans (length_codePoint_le _) (Nat.le_add_left 4 7)

/-- What is written between two quotes has no fewer octets than it stands for. -/
theorem SpellsOctets.length_le {contents octets : Bytes} (h : SpellsOctets contents octets) :
    octets.length ≤ contents.length := by
  induction h with
  | nil => exact Nat.le_refl 0
  | plain _ _ ih => exact Nat.succ_le_succ ih
  | escape he _ ih =>
    have hle := he.length_le
    rw [List.length_append, List.length_cons, List.length_append]
    omega

/-- The contents of a string take its octets **and a quote**. -/
theorem length_readContents {r : Read String c} (h : readContents c = .ok r) :
    (ofString r.value).length + 1 + r.left.rest.length ≤ c.rest.length := by
  obtain ⟨contents, hcontents, hspells⟩ := spells_of_readContents h
  have hle := SpellsOctets.length_le hspells
  rw [hcontents, List.length_append, List.length_cons]
  omega

/-- A string as a value takes its octets **and two quotes**. -/
theorem length_readString {expected : String} {r : Read String c}
    (h : readString expected c = .ok r) :
    (ofString r.value).length + 2 + r.left.rest.length ≤ c.rest.length := by
  unfold readString at h
  split at h
  · cases h
  · next b hb =>
    split at h
    · obtain ⟨s, hs, h⟩ := exists_of_bind_eq_ok h
      obtain rfl := Except.ok.inj h
      have hlength := length_readContents hs
      have hquote := Cursor.next_lt hb
      have hspaces := c.spaces_le
      show (ofString s.value).length + 2 + s.left.rest.length ≤ c.rest.length
      omega
    · cases h

/-! ## Punctuation -/

/-- The end of a list takes an octet. -/
theorem length_endList {r : Read Unit c} (h : Fields.endList c = .ok r) :
    r.left.rest.length < c.rest.length := by
  unfold Fields.endList at h
  split at h
  · cases h
  · next b hb =>
    split at h
    · cases h
      exact Nat.lt_of_lt_of_le (Cursor.next_lt hb) c.spaces_le
    · split at h
      · dsimp only at h
        split at h <;> cases h
      · cases h

/-- A value of a list that is **not the first one** takes a comma. -/
theorem length_nextItem {r : Read Bool c} (h : Fields.nextItem false c = .ok r)
    (hvalue : r.value = true) : r.left.rest.length < c.rest.length := by
  unfold Fields.nextItem at h
  split at h
  · cases h
  · next b hb =>
    split at h
    · cases h
      cases hvalue
    rw [if_neg Bool.false_ne_true] at h
    split at h
    · dsimp only at h
      split at h
      · cases h
      · split at h
        · cases h
        · cases h
          exact Nat.lt_of_le_of_lt (Cursor.spaces_le _)
            (Nat.lt_of_lt_of_le (Cursor.next_lt hb) c.spaces_le)
    · cases h

/-- So does a name of an object. -/
theorem length_nextName {r : Read Bool c} (h : Fields.nextName false c = .ok r)
    (hvalue : r.value = true) : r.left.rest.length < c.rest.length := by
  unfold Fields.nextName at h
  split at h
  · cases h
  · next b hb =>
    split at h
    · cases h
      cases hvalue
    rw [if_neg Bool.false_ne_true] at h
    split at h
    · dsimp only at h
      split at h
      · cases h
      · split at h
        · cases h
          exact Nat.lt_of_le_of_lt (Cursor.spaces_le _)
            (Nat.lt_of_lt_of_le (Cursor.next_lt hb) c.spaces_le)
        · split at h <;> cases h
    · cases h

/-- The colon takes an octet. -/
theorem length_takeColon {r : Read Unit c} (h : Fields.takeColon c = .ok r) :
    r.left.rest.length < c.rest.length := by
  unfold Fields.takeColon at h
  split at h
  · cases h
  · next b hb =>
    split at h
    · cases h
      exact Nat.lt_of_lt_of_le (Cursor.next_lt hb) c.spaces_le
    · cases h

/-! ## Lists -/

section Weight

variable {fields : Fields σ} (weight : σ → Nat) {s : σ}

/-- **The values of a list** pay for what the record weighs. Behind the first value one octet is
still owed. -/
theorem weight_readItems {index : Nat} {names : List String} {r : Read σ c}
    (hread : ∀ {name : String} {s : σ} {c : Cursor} {r : Read σ c}, fields.read name s c = .ok r →
      weight r.value + r.left.rest.length ≤ weight s + c.rest.length + 1)
    (h : fields.readItems index names s c = .ok r) :
    weight r.value + r.left.rest.length + min index 1 ≤ weight s + c.rest.length := by
  induction names generalizing index s c with
  | nil =>
    obtain ⟨close, hclose, h⟩ := exists_of_bind_eq_ok h
    obtain rfl := Except.ok.inj h
    have hlength := length_endList hclose
    show weight s + close.left.rest.length + min index 1 ≤ weight s + c.rest.length
    omega
  | cons name names ih =>
    obtain ⟨item, hitem, h⟩ := exists_of_bind_eq_ok h
    split at h
    · next htrue =>
      obtain ⟨value, hvalue, h⟩ := exists_of_bind_eq_ok h
      obtain ⟨rest, hrest, h⟩ := exists_of_bind_eq_ok h
      obtain rfl := Except.ok.inj h
      -- the octet that is owed behind the first value is the comma
      have hcomma : item.left.rest.length + min index 1 ≤ c.rest.length := by
        cases index with
        | zero => exact item.left_le
        | succ index =>
          have hlength := length_nextItem hitem htrue
          omega
      have hweight := hread hvalue
      have hothers := ih hrest
      show weight rest.value + rest.left.rest.length + min index 1 ≤ weight s + c.rest.length
      omega
    · next hfalse =>
      have hclose := (took_nextItem hitem).2 (Bool.not_eq_true _ ▸ hfalse)
      split at h
      · obtain rfl := Except.ok.inj h
        have hle := item.left_le
        have hlength := Cursor.next_lt hclose
        show weight s + item.left.next.rest.length + min index 1 ≤ weight s + c.rest.length
        omega
      · cases h

/-! ## Objects -/

/-- **A member** pays for its value, and its name for what the value weighs on top. -/
theorem weight_readMember {name : String} {r : Read σ c}
    (hread : ∀ {name : String} {s : σ} {c : Cursor} {r : Read σ c},
      fields.names.contains name = true → fields.read name s c = .ok r →
      weight r.value + r.left.rest.length
        ≤ weight s + c.rest.length + 1 + ((ofString name).length + 3))
    (h : fields.readMember name s c = .ok r) :
    weight r.value + r.left.rest.length
      ≤ weight s + c.rest.length + ((ofString name).length + 3) := by
  unfold Fields.readMember at h
  split at h
  · next hknown =>
    split at h
    · cases h
    · obtain ⟨colon, hcolon, h⟩ := exists_of_bind_eq_ok h
      obtain ⟨value, hvalue, h⟩ := exists_of_bind_eq_ok h
      obtain rfl := Except.ok.inj h
      have hlength := length_takeColon hcolon
      have hweight := hread hknown hvalue
      show weight value.value + value.left.rest.length ≤ _
      omega
  · obtain ⟨colon, hcolon, h⟩ := exists_of_bind_eq_ok h
    obtain ⟨value, hvalue, h⟩ := exists_of_bind_eq_ok h
    obtain rfl := Except.ok.inj h
    have hlength := length_takeColon hcolon
    have hle := value.left_le
    show weight s + value.left.rest.length ≤ _
    omega

/-- **The members of an object** pay for what the record weighs. Behind the first member one octet
is still owed. -/
theorem weight_readMembers {start : Cursor} {first : Bool}
    {le : c.rest.length ≤ start.rest.length} {r : Read σ start}
    (hread : ∀ {name : String} {s : σ} {c : Cursor} {r : Read σ c},
      fields.names.contains name = true → fields.read name s c = .ok r →
      weight r.value + r.left.rest.length
        ≤ weight s + c.rest.length + 1 + ((ofString name).length + 3))
    (h : fields.readMembers first s c le = .ok r) :
    weight r.value + r.left.rest.length + (if first then 0 else 1) ≤ weight s + c.rest.length := by
  fun_induction Fields.readMembers fields first s c le with
  | case1 | case2 | case3 | case4 | case7 => cases h
  | case5 first s c le name hname _ _ hquote _ hmore key hkey _ member hmember _ ih =>
    have hcomma : name.left.rest.length + (if first then 0 else 1) ≤ c.rest.length := by
      cases first with
      | true => exact name.left_le
      | false => exact length_nextName hname hmore
    have hopen := Cursor.next_lt hquote
    have hlength := length_readContents hkey
    have hweight := weight_readMember weight hread hmember
    have hothers := ih h
    rw [if_neg Bool.false_ne_true] at hothers
    omega
  | case6 first s c le name hname _ _ hclose _ _ =>
    cases h
    have hle := name.left_le
    have hlength := Cursor.next_lt hclose
    show weight s + name.left.next.rest.length + _ ≤ _
    split <;> omega

/-! ## Whole texts -/

/-- Whether a text **opens a list**, behind blanks. -/
def OpensList (text : Bytes) : Prop := ∃ blank rest, Blank blank ∧ text = blank ++ 0x5B :: rest

/-- Blanks at the front are passed, and **only blanks**. -/
theorem Cursor.exists_blank (c : Cursor) :
    ∃ blank, Blank blank ∧ c.rest = blank ++ c.spaces.rest := by
  obtain ⟨octets, position⟩ := c
  show ∃ blank, Blank blank ∧ octets = blank ++ (skipWhile isSpace octets position).rest
  induction octets generalizing position with
  | nil => exact ⟨[], Blank.nil, rfl⟩
  | cons b octets ih =>
    rw [skipWhile]
    split
    · next hb =>
      obtain ⟨blank, hblank, hoctets⟩ := ih (position.after b)
      exact ⟨b :: blank, List.forall_mem_cons.mpr ⟨hb, hblank⟩, congrArg (b :: ·) hoctets⟩
    · exact ⟨[], Blank.nil, rfl⟩

/-- A text opens a list if a bracket is what its reader finds. -/
theorem opensList_iff {text : Bytes} :
    OpensList text ↔ (Cursor.start text).spaces.peek? = some 0x5B := by
  constructor
  · rintro ⟨blank, rest, hblank, htext⟩
    exact Cursor.peek?_of_rest
      (Cursor.spaces_rest (c := Cursor.start text) hblank htext (by decide))
  · intro h
    obtain ⟨blank, hblank, htext⟩ := (Cursor.start text).exists_blank
    rw [Cursor.rest_of_peek? h] at htext
    exact ⟨blank, _, hblank, htext⟩

instance (text : Bytes) : Decidable (OpensList text) := decidable_of_iff _ opensList_iff.symm

/-- **What a list costs**: its record, and one octet more. -/
theorem weight_of_list {empty : σ} {text : Bytes} (hlist : OpensList text)
    (hread : ∀ {name : String} {s : σ} {c : Cursor} {r : Read σ c}, fields.read name s c = .ok r →
      weight r.value + r.left.rest.length ≤ weight s + c.rest.length + 1)
    (h : fields.read? empty text = .ok s) : weight s + 1 ≤ weight empty + text.length := by
  obtain ⟨record, hrecord, h⟩ := exists_of_bind_eq_ok h
  split at h
  · obtain rfl := Except.ok.inj h
    obtain ⟨hopen, items, hitems, hvalue, -⟩ | ⟨hopen, -⟩ := readRecord_cases hrecord
    · have hweight := weight_readItems weight hread hitems
      have hbracket := Cursor.next_lt hopen
      have hblank : (Cursor.start text).spaces.rest.length ≤ text.length := Cursor.spaces_le _
      rw [hvalue] at hweight
      omega
    · rw [opensList_iff.mp hlist] at hopen
      cases hopen
  · cases h

/-- **What an object costs**: its record, and one octet more. -/
theorem weight_of_object {empty : σ} {text : Bytes} (hlist : ¬ OpensList text)
    (hread : ∀ {name : String} {s : σ} {c : Cursor} {r : Read σ c},
      fields.names.contains name = true → fields.read name s c = .ok r →
      weight r.value + r.left.rest.length
        ≤ weight s + c.rest.length + 1 + ((ofString name).length + 3))
    (h : fields.read? empty text = .ok s) : weight s + 1 ≤ weight empty + text.length := by
  obtain ⟨record, hrecord, h⟩ := exists_of_bind_eq_ok h
  split at h
  · obtain rfl := Except.ok.inj h
    obtain ⟨hopen, -⟩ | ⟨hopen, members, hmembers, hvalue, -⟩ := readRecord_cases hrecord
    · exact absurd (opensList_iff.mpr hopen) hlist
    · have hweight := weight_readMembers weight hread hmembers
      have hbrace := Cursor.next_lt hopen
      have hblank : (Cursor.start text).spaces.rest.length ≤ text.length := Cursor.spaces_le _
      rw [hvalue, if_pos rfl] at hweight
      omega
  · cases h

end Weight

/-! ## The list that costs least -/

/-- Texts behind the first one, each with a comma before it. -/
def furtherItems (texts : List String) : Bytes := texts.flatMap fun s => 0x2C :: quote s

/-- A **list of texts**, without blanks. -/
def list : List String → Bytes
  | [] => [0x5B, 0x5D]
  | s :: texts => 0x5B :: (quote s ++ (furtherItems texts ++ [0x5D]))

/-- The first value stands behind the bracket. -/
theorem nextItem_first {s : String} (h : c.rest = quote s ++ rest) :
    Gives (Fields.nextItem true c) true (quote s ++ rest) := by
  rw [quote_append] at h ⊢
  have hspaces := Cursor.spaces_rest Blank.nil h (by decide)
  unfold Fields.nextItem
  rw [Cursor.peek?_of_rest hspaces]
  exact ⟨_, rfl, rfl, hspaces⟩

/-- Further values stand behind a comma. -/
theorem nextItem_further {s : String} (h : c.rest = 0x2C :: (quote s ++ rest)) :
    Gives (Fields.nextItem false c) true (quote s ++ rest) := by
  rw [quote_append] at h ⊢
  have hspaces := Cursor.spaces_rest Blank.nil h (by decide)
  have hitem := Cursor.spaces_rest Blank.nil (Cursor.next_rest hspaces) (by decide)
  unfold Fields.nextItem
  rw [Cursor.peek?_of_rest hspaces]
  dsimp only
  rw [Cursor.peek?_of_rest hitem]
  exact ⟨_, rfl, rfl, hitem⟩

/-- The bracket behind the last value is taken. -/
theorem endList_gives (h : c.rest = 0x5D :: rest) : Gives (Fields.endList c) () rest := by
  have hspaces := Cursor.spaces_rest Blank.nil h (by decide)
  unfold Fields.endList
  rw [Cursor.peek?_of_rest hspaces]
  exact ⟨_, rfl, rfl, Cursor.next_rest hspaces⟩

section List

variable {fields : Fields σ} {put : String → σ → String → σ} {s : σ}

/-- The record with texts in the places of the fields `names`, one after the other. -/
def putAll (put : String → σ → String → σ) (s : σ) (named : List (String × String)) : σ :=
  named.foldl (fun t m => put m.1 t m.2) s

/-- **One value further**: the value is put in its place, and reading goes on behind it. -/
theorem readItems_cons (texts : fields.AreTexts put) {index : Nat} {name text : String}
    {names : List String} {t : σ} {behind : Bytes}
    (hitem : Gives (Fields.nextItem (index == 0) c) true (quote text ++ behind))
    (hrest : ∀ d : Cursor, d.rest = behind →
      Gives (fields.readItems (index + 1) names (put name s text) d) t rest) :
    Gives (fields.readItems index (name :: names) s c) t rest := by
  obtain ⟨expected, hread⟩ := texts.read_eq
  obtain ⟨item, hok, hvalue, hleft⟩ := hitem
  obtain ⟨value, hstring, rfl, hbehind⟩ := readString_quote expected hleft
  obtain ⟨others, hothers, rfl, hend⟩ := hrest value.left hbehind
  refine ⟨(others.since value.left_le).since item.left_le, ?_, rfl, hend⟩
  have hplaced : fields.read name s item.left = .ok (value.map (put name s)) := by
    rw [hread, hstring]
    rfl
  have hgoesOn : fields.readItems (index + 1) names (value.map (put name s)).value
      (value.map (put name s)).left = .ok others := hothers
  unfold Fields.readItems
  simp only [hok, bind, Except.bind, hvalue, if_true, hplaced, hgoesOn]
  rfl

/-- The values behind the first one are read up to the end of the list. -/
theorem readItems_further (texts : fields.AreTexts put) {index : Nat} {names values : List String}
    (hlength : names.length = values.length)
    (hc : c.rest = furtherItems values ++ 0x5D :: rest) :
    Gives (fields.readItems (index + 1) names s c) (putAll put s (names.zip values)) rest := by
  induction names generalizing index values s c with
  | nil =>
    obtain rfl := List.length_eq_zero_iff.mp hlength.symm
    obtain ⟨close, hclose, -, hleft⟩ := endList_gives hc
    refine ⟨close.map fun _ => s, ?_, rfl, hleft⟩
    unfold Fields.readItems
    rw [hclose]
    rfl
  | cons name names ih =>
    obtain ⟨value, values, rfl⟩ := List.exists_cons_of_length_eq_add_one hlength.symm
    have hcomma : c.rest = 0x2C :: (quote value ++ (furtherItems values ++ 0x5D :: rest)) := by
      rw [hc, furtherItems, List.flatMap_cons, List.append_assoc]
      rfl
    exact readItems_cons texts (nextItem_further hcomma) fun d hd =>
      ih (Nat.succ.inj hlength) hd

/-- **A list of texts reads back**, one text for each field. -/
theorem read?_list (texts : fields.AreTexts put) {name value : String} {names values : List String}
    (hnames : fields.names = name :: names) (hlength : names.length = values.length) :
    fields.read? s (list (value :: values))
      = .ok (putAll put s ((name :: names).zip (value :: values))) := by
  have hstart : (Cursor.start (list (value :: values))).rest
      = 0x5B :: (quote value ++ (furtherItems values ++ [0x5D])) := rfl
  have hspaces := Cursor.spaces_rest Blank.nil hstart (by decide)
  obtain ⟨items, hitems, hvalue, hend⟩ :
      Gives
        (fields.readItems 0 (name :: names) s (Cursor.start (list (value :: values))).spaces.next)
        (putAll put s ((name :: names).zip (value :: values))) [] :=
    readItems_cons texts (nextItem_first (Cursor.next_rest hspaces)) fun d hd =>
      readItems_further texts hlength hd
  have hnone : items.left.spaces.peek? = none := by
    rw [Cursor.spaces, hend]
    rfl
  unfold Fields.read? Fields.readRecord
  rw [Cursor.peek?_of_rest hspaces, hnames]
  simp only [beq_self_eq_true, if_true, hitems, bind, Except.bind, pure, Except.pure]
  split
  · exact congrArg Except.ok hvalue
  · next hsome =>
    have hcontra := hnone.symm.trans hsome
    cases hcontra

end List

end RecordRelay.Json
