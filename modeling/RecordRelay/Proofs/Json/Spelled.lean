import RecordRelay.Proofs.Json.Taken

/-!
# Strings in any spelling

One text has many spellings as a string: each of its characters may stand for itself, if it is no
control, no quote and no backslash, or be written with four digits, in small letters or capitals, as
one unit or as a pair; and some characters have an escape of one letter. `Spells` says which octets
between two quotes spell which text, by octets, since a reader looks at whole characters only when
the string has ended.

A reader is said to *give* a value and to leave a rest (`Gives`) wherever in a text it was started,
so nothing here depends on lines and columns. Reading gives a text from every spelling of it
(`readContents_gives`), and from nothing else (`spells_of_readContents`).
-/

namespace RecordRelay.Json

open Bytes

variable {α : Type} {c : Cursor} {b : UInt8} {rest : Bytes}

/-! ## Cursors -/

/-- The octet to be taken next is the first one left. -/
theorem Cursor.peek?_of_rest (h : c.rest = b :: rest) : c.peek? = some b := by
  rw [peek?, h, List.head?_cons]

/-- What is left begins with the octet to be taken next. -/
theorem Cursor.rest_of_peek? (h : c.peek? = some b) : c.rest = b :: c.next.rest := by
  obtain ⟨octets, position⟩ := c
  cases octets with
  | nil => cases h
  | cons a octets =>
    cases h
    rfl

/-- One octet further the others are left. -/
theorem Cursor.next_rest (h : c.rest = b :: rest) : c.next.rest = rest := by
  unfold next
  split
  · next he =>
    rw [he] at h
    cases h
  · next he =>
    rw [he] at h
    cases h
    rfl

/-- Whether octets **do not go on** with octets that satisfy `p`. -/
def Stops (p : UInt8 → Bool) (octets : Bytes) : Prop := ∀ b ∈ octets.head?, p b = false

/-- Octets that satisfy `p` are passed up to those that do not. -/
theorem Cursor.skipWhile_append {p : UInt8 → Bool} {octets : Bytes} (h : ∀ b ∈ octets, p b = true)
    (hrest : Stops p rest) (position : Position) :
    (skipWhile p (octets ++ rest) position).rest = rest := by
  induction octets generalizing position with
  | nil =>
    cases rest with
    | nil => rfl
    | cons b rest =>
      rw [List.nil_append, skipWhile, hrest b rfl]
      rfl
  | cons b octets ih =>
    rw [List.cons_append, skipWhile, if_pos (h b List.mem_cons_self)]
    exact ih (fun x hx => h x (List.mem_cons_of_mem _ hx)) _

/-- Whether octets may stand **between the parts** of a text. -/
def Blank (octets : Bytes) : Prop := ∀ b ∈ octets, isSpace b = true

instance (octets : Bytes) : Decidable (Blank octets) :=
  List.decidableBAll (fun b => isSpace b = true) octets

/-- Nothing may stand between them. -/
theorem Blank.nil : Blank [] := fun _ h => nomatch h

/-- Blanks are passed. -/
theorem Cursor.spaces_append {blank : Bytes} (hblank : Blank blank) (h : c.rest = blank ++ rest)
    (hrest : Stops isSpace rest) : c.spaces.rest = rest := by
  rw [spaces, h]
  exact skipWhile_append hblank hrest c.position

/-- Blanks are passed up to an octet that is none. -/
theorem Cursor.spaces_rest {blank : Bytes} (hblank : Blank blank)
    (h : c.rest = blank ++ b :: rest) (hb : isSpace b = false) : c.spaces.rest = b :: rest :=
  spaces_append hblank h fun x hx => by
    cases hx
    exact hb

/-! ## Readers -/

/-- A reader **gives** a value and leaves a rest. -/
def Gives (r : Except Error (Read α c)) (value : α) (rest : Bytes) : Prop :=
  ∃ read, r = .ok read ∧ read.value = value ∧ read.left.rest = rest

/-- What is made of the value is given then. -/
theorem Gives.map {β : Type} {r : Except Error (Read α c)} {value : α} (h : Gives r value rest)
    (f : α → β) : Gives (do return (← r).map f) (f value) rest := by
  obtain ⟨read, rfl, rfl, hrest⟩ := h
  exact ⟨read.map f, rfl, rfl, hrest⟩

/-! ## Escapes -/

/-- The **escapes of one letter** and the octets that they stand for. -/
def letters : List (UInt8 × UInt8) :=
  [(0x22, 0x22), (0x5C, 0x5C), (0x2F, 0x2F), (0x62, 0x08), (0x66, 0x0C), (0x6E, 0x0A),
    (0x72, 0x0D), (0x74, 0x09)]

/-- A letter is looked up among them. -/
theorem escape?_eq_lookup (b : UInt8) : escape? b = letters.lookup b := by
  have hall : ∀ n : Fin 256, escape? (UInt8.ofFin n) = letters.lookup (UInt8.ofFin n) := by
    decide +kernel
  exact hall b.toFin

/-- The letter of four digits is none of them. -/
theorem ne_of_lookup_letters {value : UInt8} (h : letters.lookup b = some value) :
    (b == 0x75) = false := by
  rw [beq_eq_false_iff_ne]
  rintro rfl
  cases h

/-- A digit in capitals. -/
def capitalDigit (n : Nat) : UInt8 := if n < 10 then 0x30 + n.toUInt8 else 0x37 + n.toUInt8

/-- Whether an octet is a **hexadecimal digit** for a number, small or capital. -/
def IsHex (b : UInt8) (n : Nat) : Prop := n < 16 ∧ (b = hexDigit n ∨ b = capitalDigit n)

/-- These are the digits that are read. -/
theorem hexValue?_eq_some_iff {n : Nat} : hexValue? b = some n ↔ IsHex b n := by
  constructor
  · have hall : ∀ m : Fin 256, ∀ n ∈ hexValue? (UInt8.ofFin m),
        n < 16 ∧ (UInt8.ofFin m = hexDigit n ∨ UInt8.ofFin m = capitalDigit n) := by
      decide +kernel
    exact hall b.toFin n
  · rintro ⟨hn, hb⟩
    have hall : ∀ m : Fin 16, hexValue? (hexDigit m) = some m.val
        ∧ hexValue? (capitalDigit m) = some m.val := by decide
    obtain rfl | rfl := hb
    · exact (hall ⟨n, hn⟩).1
    · exact (hall ⟨n, hn⟩).2

/-- Whether four digits spell a **unit** of UTF-16. -/
def IsUnit (x₁ x₂ x₃ x₄ : UInt8) (unit : Nat) : Prop :=
  ∃ n₁ n₂ n₃ n₄, IsHex x₁ n₁ ∧ IsHex x₂ n₂ ∧ IsHex x₃ n₃ ∧ IsHex x₄ n₄
    ∧ unit = n₁ * 0x1000 + n₂ * 0x100 + n₃ * 0x10 + n₄

/-- These are the units that are read. -/
theorem unit?_eq_some_iff {x₁ x₂ x₃ x₄ : UInt8} {unit : Nat} :
    unit? x₁ x₂ x₃ x₄ = some unit ↔ IsUnit x₁ x₂ x₃ x₄ unit := by
  unfold unit? IsUnit
  simp only [← hexValue?_eq_some_iff, bind, Option.bind_eq_some_iff, pure, Option.some.injEq]
  constructor
  · rintro ⟨n₁, h₁, n₂, h₂, n₃, h₃, n₄, h₄, rfl⟩
    exact ⟨n₁, n₂, n₃, n₄, h₁, h₂, h₃, h₄, rfl⟩
  · rintro ⟨n₁, n₂, n₃, n₄, h₁, h₂, h₃, h₄, rfl⟩
    exact ⟨n₁, h₁, n₂, h₂, n₃, h₃, n₄, h₄, rfl⟩

/-- What may follow a backslash, and **the octets that it stands for**. -/
inductive Escapes : Bytes → Bytes → Prop
  /-- One letter. -/
  | letter {letter value : UInt8} (h : letters.lookup letter = some value) :
    Escapes [letter] [value]
  /-- Four digits of a unit that is a code point by itself. -/
  | unit {x₁ x₂ x₃ x₄ : UInt8} {n : Nat} (h : IsUnit x₁ x₂ x₃ x₄ n)
    (single : ¬ (0xD800 ≤ n ∧ n ≤ 0xDFFF)) :
    Escapes [0x75, x₁, x₂, x₃, x₄] (codePoint n)
  /-- Two units that are one code point together. -/
  | pair {x₁ x₂ x₃ x₄ y₁ y₂ y₃ y₄ : UInt8} {high low n : Nat} (hhigh : IsUnit x₁ x₂ x₃ x₄ high)
    (hlow : IsUnit y₁ y₂ y₃ y₄ low) (first : 0xD800 ≤ high ∧ high ≤ 0xDBFF)
    (second : 0xDC00 ≤ low ∧ low ≤ 0xDFFF)
    (together : (high - 0xD800) * 0x400 + (low - 0xDC00) + 0x10000 = n) :
    Escapes [0x75, x₁, x₂, x₃, x₄, 0x5C, 0x75, y₁, y₂, y₃, y₄] (codePoint n)

/-- Four digits give their unit. -/
theorem readUnit_gives {x₁ x₂ x₃ x₄ : UInt8} {unit : Nat}
    (h : c.rest = x₁ :: x₂ :: x₃ :: x₄ :: rest) (hunit : IsUnit x₁ x₂ x₃ x₄ unit) :
    Gives (readUnit c) unit rest := by
  unfold readUnit
  split
  · next he =>
    rw [he] at h
    cases h
    split
    · next unit' hu =>
      rw [unit?_eq_some_iff.mpr hunit] at hu
      cases hu
      exact ⟨_, rfl, rfl, rfl⟩
    · next hu =>
      rw [unit?_eq_some_iff.mpr hunit] at hu
      cases hu
  · next he => exact absurd h (he _ _ _ _ _)

/-- Only four digits give a unit. -/
theorem isUnit_of_readUnit {r : Read Nat c} (h : readUnit c = .ok r) :
    ∃ x₁ x₂ x₃ x₄, c.rest = x₁ :: x₂ :: x₃ :: x₄ :: r.left.rest
      ∧ IsUnit x₁ x₂ x₃ x₄ r.value := by
  unfold readUnit at h
  split at h
  · next x₁ x₂ x₃ x₄ rest he =>
    dsimp only at h
    split at h
    · next unit hunit =>
      cases h
      exact ⟨x₁, x₂, x₃, x₄, he, unit?_eq_some_iff.mp hunit⟩
    · cases h
  · cases h

/-- The octet that a pair has to go on with is taken. -/
theorem expectInPair_gives (h : c.rest = b :: rest) : Gives (expectInPair b c) () rest := by
  unfold expectInPair
  rw [Cursor.peek?_of_rest h]
  dsimp only
  rw [if_pos (beq_self_eq_true b)]
  exact ⟨_, rfl, rfl, Cursor.next_rest h⟩

/-- Only that octet is taken. -/
theorem rest_of_expectInPair {r : Read Unit c} (h : expectInPair b c = .ok r) :
    c.rest = b :: r.left.rest := by
  unfold expectInPair at h
  split at h
  · cases h
  · next found hfound =>
    split at h
    · next heq =>
      cases h
      rw [beq_iff_eq.mp heq] at hfound
      exact Cursor.rest_of_peek? hfound
    · cases h

/-- The second unit of a pair is read, and with it the code point. -/
theorem readPair_gives {y₁ y₂ y₃ y₄ : UInt8} {high low n : Nat} (hlow : IsUnit y₁ y₂ y₃ y₄ low)
    (second : 0xDC00 ≤ low ∧ low ≤ 0xDFFF)
    (together : (high - 0xD800) * 0x400 + (low - 0xDC00) + 0x10000 = n)
    (hc : c.rest = 0x5C :: 0x75 :: y₁ :: y₂ :: y₃ :: y₄ :: rest) :
    Gives (readPair high c) (codePoint n) rest := by
  obtain ⟨backslash, hbackslash, -, hletter⟩ := expectInPair_gives hc
  obtain ⟨letter, hu, -, hdigits⟩ := expectInPair_gives hletter
  obtain ⟨other, hother, rfl, hrest⟩ := readUnit_gives hdigits hlow
  unfold readPair
  simp only [bind, Except.bind, hbackslash, hu, hother, second, and_self, if_true, together]
  exact ⟨_, rfl, rfl, hrest⟩

/-- Only such a unit is read. -/
theorem isUnit_of_readPair {high : Nat} {r : Read Bytes c} (h : readPair high c = .ok r) :
    ∃ y₁ y₂ y₃ y₄ low n, c.rest = 0x5C :: 0x75 :: y₁ :: y₂ :: y₃ :: y₄ :: r.left.rest
      ∧ IsUnit y₁ y₂ y₃ y₄ low ∧ (0xDC00 ≤ low ∧ low ≤ 0xDFFF)
      ∧ (high - 0xD800) * 0x400 + (low - 0xDC00) + 0x10000 = n ∧ r.value = codePoint n := by
  obtain ⟨backslash, hbackslash, h⟩ := exists_of_bind_eq_ok h
  obtain ⟨letter, hletter, h⟩ := exists_of_bind_eq_ok h
  obtain ⟨low, hlow, h⟩ := exists_of_bind_eq_ok h
  obtain ⟨y₁, y₂, y₃, y₄, hdigits, hy⟩ := isUnit_of_readUnit hlow
  split at h
  · next hsecond =>
    generalize htogether : (high - 0xD800) * 0x400 + (low.value - 0xDC00) + 0x10000 = n at h
    obtain rfl := Except.ok.inj h
    refine ⟨y₁, y₂, y₃, y₄, low.value, n, ?_, hy, hsecond, htogether, rfl⟩
    rw [rest_of_expectInPair hbackslash, rest_of_expectInPair hletter, hdigits]
    rfl
  · cases h

/-- **Every escape is read** as the octets that it stands for. -/
theorem Escapes.gives {escape value : Bytes} (h : Escapes escape value)
    (hc : c.rest = escape ++ rest) : Gives (readEscape c) value rest := by
  cases h with
  | letter h =>
    unfold readEscape
    rw [Cursor.peek?_of_rest hc]
    simp only [ne_of_lookup_letters h, Bool.false_eq_true, if_false, escape?_eq_lookup, h]
    exact ⟨_, rfl, rfl, Cursor.next_rest hc⟩
  | @unit x₁ x₂ x₃ x₄ n h single =>
    obtain ⟨read, hread, rfl, hrest⟩ := readUnit_gives (Cursor.next_rest hc) h
    have hlow : ¬ (0xDC00 ≤ read.value ∧ read.value ≤ 0xDFFF) := by omega
    have hhigh : ¬ (0xD800 ≤ read.value ∧ read.value ≤ 0xDBFF) := by omega
    unfold readEscape
    rw [Cursor.peek?_of_rest hc, hread]
    refine ⟨(read.since c.next_le).map fun n => codePoint n, ?_, rfl, hrest⟩
    simp only [beq_self_eq_true, if_true, bind, Except.bind, hlow, hhigh, if_false]
    rfl
  | @pair x₁ x₂ x₃ x₄ y₁ y₂ y₃ y₄ high low n hhigh hlow first second together =>
    obtain ⟨read, hread, rfl, hleft⟩ := readUnit_gives (Cursor.next_rest hc) hhigh
    obtain ⟨pair, hpair, hvalue, hrest⟩ := readPair_gives hlow second together hleft
    have hnot : ¬ (0xDC00 ≤ read.value ∧ read.value ≤ 0xDFFF) := by omega
    unfold readEscape
    rw [Cursor.peek?_of_rest hc, hread]
    refine ⟨(pair.since read.left_le).since c.next_le, ?_, hvalue, hrest⟩
    simp only [beq_self_eq_true, if_true, bind, Except.bind, hnot, first, if_false, and_self, hpair]
    rfl

/-- **Nothing else is read** as an escape. -/
theorem escapes_of_readEscape {r : Read Bytes c} (h : readEscape c = .ok r) :
    ∃ escape, c.rest = escape ++ r.left.rest ∧ Escapes escape r.value := by
  unfold readEscape at h
  split at h
  · cases h
  · next b hb =>
    have hrest := Cursor.rest_of_peek? hb
    split at h
    · next hu =>
      rw [beq_iff_eq.mp hu] at hrest
      obtain ⟨unit, hunit, h⟩ := exists_of_bind_eq_ok h
      obtain ⟨x₁, x₂, x₃, x₄, hdigits, hx⟩ := isUnit_of_readUnit hunit
      rw [hdigits] at hrest
      split at h
      · cases h
      · next hlow =>
        split at h
        · next hhigh =>
          obtain ⟨pair, hpair, h⟩ := exists_of_bind_eq_ok h
          obtain rfl := Except.ok.inj h
          obtain ⟨y₁, y₂, y₃, y₄, low, n, hpaired, hy, hsecond, htogether, hvalue⟩ :=
            isUnit_of_readPair hpair
          rw [hpaired] at hrest
          have hescapes := Escapes.pair hx hy hhigh hsecond htogether
          rw [← hvalue] at hescapes
          exact ⟨_, hrest, hescapes⟩
        · next hhigh =>
          obtain rfl := Except.ok.inj h
          have hsingle : ¬ (0xD800 ≤ unit.value ∧ unit.value ≤ 0xDFFF) := by omega
          exact ⟨_, hrest, .unit hx hsingle⟩
    · split at h
      · next value hvalue =>
        cases h
        exact ⟨[b], hrest, .letter (escape?_eq_lookup b ▸ hvalue)⟩
      · cases h

/-! ## Octets of a string -/

/-- What is written **between two quotes**, and the octets that it stands for: those that are no
quote, no backslash and no control for themselves, and each escape for its own. -/
inductive SpellsOctets : Bytes → Bytes → Prop
  | nil : SpellsOctets [] []
  | plain {b : UInt8} {contents octets : Bytes} (hb : 0x20 ≤ b ∧ b ≠ 0x22 ∧ b ≠ 0x5C)
    (h : SpellsOctets contents octets) : SpellsOctets (b :: contents) (b :: octets)
  | escape {escape value contents octets : Bytes} (he : Escapes escape value)
    (h : SpellsOctets contents octets) :
    SpellsOctets (0x5C :: (escape ++ contents)) (value ++ octets)

/-- What is written one behind the other stands for the octets of both. -/
theorem SpellsOctets.append {contents others octets more : Bytes}
    (h : SpellsOctets contents octets) (h' : SpellsOctets others more) :
    SpellsOctets (contents ++ others) (octets ++ more) := by
  induction h with
  | nil => exact h'
  | plain hb _ ih => exact .plain hb ih
  | escape he _ ih =>
    rw [List.cons_append, List.append_assoc, List.append_assoc]
    exact .escape he ih

section Octets

variable {start : Cursor} (reversed : Bytes) (le : c.rest.length ≤ start.rest.length)

/-- What reading does next depends on the next octet. -/
theorem readOctets_of_peek? (h : c.peek? = some b) :
    readOctets reversed c le
      = if b == 0x22 then .ok ((Read.step reversed.reverse c).since le)
        else if b == 0x5C then
          match readEscape c.next with
          | .error e => .error e
          | .ok escape =>
            readOctets (escape.value.reverse ++ reversed) escape.left
              (Nat.le_trans (Nat.le_trans escape.left_le c.next_le) le)
        else if b < 0x20 then c.next.fail .controlCharacter
        else readOctets (b :: reversed) c.next (Nat.le_trans c.next_le le) := by
  rw [readOctets]
  split
  · next hnone =>
    rw [hnone] at h
    cases h
  · next b' hsome =>
    rw [hsome] at h
    cases h
    rfl

/-- **What is written is read** up to the quote that ends it. -/
theorem SpellsOctets.gives {contents octets : Bytes} (h : SpellsOctets contents octets)
    (hc : c.rest = contents ++ 0x22 :: rest) :
    Gives (readOctets reversed c le) (reversed.reverse ++ octets) rest := by
  induction h generalizing c reversed with
  | nil =>
    rw [List.append_nil]
    exact ⟨_, readOctets_of_peek? reversed le (Cursor.peek?_of_rest hc), rfl,
      Cursor.next_rest hc⟩
  | @plain b contents octets hb _ ih =>
    have hgives := ih (b :: reversed) (Nat.le_trans c.next_le le) (Cursor.next_rest hc)
    rw [readOctets_of_peek? reversed le (Cursor.peek?_of_rest hc), if_neg (by simpa using hb.2.1),
      if_neg (by simpa using hb.2.2), if_neg (UInt8.not_lt.mpr hb.1)]
    rwa [List.reverse_cons, List.append_assoc] at hgives
  | @escape escape value contents octets he _ ih =>
    have hbehind : c.next.rest = escape ++ (contents ++ 0x22 :: rest) :=
      (Cursor.next_rest hc).trans (List.append_assoc ..)
    obtain ⟨read, hok, rfl, hleft⟩ := he.gives hbehind
    have hgives := ih (read.value.reverse ++ reversed)
      (Nat.le_trans (Nat.le_trans read.left_le c.next_le) le) hleft
    rw [readOctets_of_peek? reversed le (Cursor.peek?_of_rest hc), if_neg (by decide),
      if_pos (by decide), hok]
    rwa [List.reverse_append, List.reverse_reverse, List.append_assoc] at hgives

/-- **Nothing else is read** as the contents of a string. -/
theorem spellsOctets_of_readOctets {r : Read Bytes start}
    (h : readOctets reversed c le = .ok r) :
    ∃ contents octets, c.rest = contents ++ 0x22 :: r.left.rest ∧ SpellsOctets contents octets
      ∧ r.value = reversed.reverse ++ octets := by
  fun_induction readOctets reversed c le with
  | case1 | case3 | case5 => cases h
  | case2 reversed c le b hb lt hquote =>
    cases h
    have hrest := Cursor.rest_of_peek? hb
    rw [beq_iff_eq.mp hquote] at hrest
    exact ⟨[], [], hrest, .nil, (List.append_nil _).symm⟩
  | case4 reversed c le b hb lt _ hbackslash escape hescape _ ih =>
    have hrest := Cursor.rest_of_peek? hb
    rw [beq_iff_eq.mp hbackslash] at hrest
    obtain ⟨letters, hletters, hstands⟩ := escapes_of_readEscape hescape
    obtain ⟨contents, octets, hcontents, hspells, hvalue⟩ := ih h
    refine ⟨0x5C :: (letters ++ contents), escape.value ++ octets, ?_, .escape hstands hspells, ?_⟩
    · rw [hrest, hletters, hcontents, List.cons_append, List.append_assoc]
    · rw [hvalue, List.reverse_append, List.reverse_reverse, List.append_assoc]
  | case6 reversed c le b hb lt hquote hbackslash hcontrol ih =>
    obtain ⟨contents, octets, hcontents, hspells, hvalue⟩ := ih h
    refine ⟨b :: contents, b :: octets, ?_, .plain ⟨UInt8.not_lt.mp hcontrol, ?_, ?_⟩ hspells, ?_⟩
    · rw [Cursor.rest_of_peek? hb, hcontents, List.cons_append]
    · simpa using hquote
    · simpa using hbackslash
    · rw [hvalue, List.reverse_cons, List.append_assoc, List.singleton_append]

end Octets

/-! ## Strings -/

/-- What is written between two quotes **spells a text** if it stands for the octets of the text. -/
def Spells (contents : Bytes) (s : String) : Prop := SpellsOctets contents (ofString s)

/-- **Every spelling of a text reads** as the text, from behind its opening quote. -/
theorem Spells.gives {contents : Bytes} {s : String} (h : Spells contents s)
    (hc : c.rest = contents ++ 0x22 :: rest) : Gives (readContents c) s rest := by
  obtain ⟨octets, hok, hvalue, hrest⟩ := SpellsOctets.gives [] c.le_refl h hc
  have htext : text? octets.value = some s := by
    rw [hvalue]
    exact text?_ofString s
  unfold readContents
  rw [hok]
  refine ⟨octets.map fun _ => s, ?_, rfl, hrest⟩
  simp only [bind, Except.bind, htext]
  rfl

/-- **Nothing else reads** as a text. -/
theorem spells_of_readContents {r : Read String c} (h : readContents c = .ok r) :
    ∃ contents, c.rest = contents ++ 0x22 :: r.left.rest ∧ Spells contents r.value := by
  obtain ⟨read, hread, h⟩ := exists_of_bind_eq_ok h
  obtain ⟨contents, octets, hcontents, hspells, hvalue⟩ :=
    spellsOctets_of_readOctets [] c.le_refl hread
  split at h
  · next s hs =>
    obtain rfl := Except.ok.inj h
    refine ⟨contents, hcontents, ?_⟩
    rw [hvalue] at hs
    show SpellsOctets contents (ofString s)
    rw [ofString_of_text? hs]
    exact hspells
  · cases h

/-- Whether octets spell a text **can be found out by reading** them. -/
theorem spells_iff {contents : Bytes} {s : String} :
    Spells contents s ↔ ((readContents (Cursor.start (contents ++ [0x22]))).toOption.map
      fun r => (r.value, r.left.rest)) = some (s, []) := by
  constructor
  · intro h
    obtain ⟨read, hok, hvalue, hrest⟩ := h.gives (c := Cursor.start (contents ++ [0x22])) rfl
    rw [hok]
    exact congrArg some (Prod.ext hvalue hrest)
  · intro h
    cases hread : readContents (Cursor.start (contents ++ [0x22])) with
    | error e => rw [hread] at h; cases h
    | ok read =>
      rw [hread] at h
      obtain ⟨rfl, hrest⟩ := Prod.mk.inj (Option.some.inj h)
      obtain ⟨others, hothers, hspells⟩ := spells_of_readContents hread
      rw [hrest] at hothers
      obtain rfl : contents = others := List.append_cancel_right hothers
      exact hspells

instance (contents : Bytes) (s : String) : Decidable (Spells contents s) :=
  decidable_of_iff _ spells_iff.symm

/-- A text is read **as a value** behind blanks. -/
theorem Spells.readString_gives {blank contents : Bytes} {s : String} (h : Spells contents s)
    (expected : String) (hblank : Blank blank)
    (hc : c.rest = blank ++ 0x22 :: (contents ++ 0x22 :: rest)) :
    Gives (readString expected c) s rest := by
  have hspaces := Cursor.spaces_rest hblank hc (by decide)
  obtain ⟨read, hok, hvalue, hrest⟩ := h.gives (Cursor.next_rest hspaces)
  unfold readString
  rw [Cursor.peek?_of_rest hspaces, hok]
  exact ⟨_, rfl, hvalue, hrest⟩

end RecordRelay.Json
