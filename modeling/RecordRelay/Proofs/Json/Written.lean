import RecordRelay.Proofs.Json.Spelled

/-!
# Reading a string back

A character is written in one of three ways, and `quoteChar_cases` is the only place that looks at
the table: as a backslash with a letter, as a backslash with four digits, or as its own octets, none
of which then is a quote, a backslash or a control. Each of them is a spelling of the character, and
so a string that was written **reads back** (`readString_quote`), whatever characters it has.
-/

namespace RecordRelay.Json

open Bytes

variable {c : Cursor} {rest : Bytes}

/-! ## Characters of a string -/

/-- A digit is written in small letters. -/
theorem isHex_hexDigit {n : Nat} (h : n < 16) : IsHex (hexDigit n) n := ⟨h, .inl rfl⟩

/-- A control character is written with the digits of its number. -/
theorem isUnit_hexDigit {n : Nat} (h : n < 0x20) :
    IsUnit 0x30 0x30 (hexDigit (n / 16)) (hexDigit (n % 16)) n :=
  ⟨0, 0, n / 16, n % 16, isHex_hexDigit (by decide), isHex_hexDigit (by decide),
    isHex_hexDigit (by omega), isHex_hexDigit (by omega), by omega⟩

/-- Whether a character is **written with a letter** behind a backslash. -/
def Lettered (ch : Char) : Prop :=
  ∃ letter value, quoteChar ch = [0x5C, letter] ∧ String.utf8EncodeChar ch = [value]
    ∧ escape? letter = some value ∧ (letter == 0x75) = false ∧ 0x20 ≤ letter ∧ letter < 0x80

/-- Whether a character is **written with digits** behind a backslash. -/
def Numbered (ch : Char) : Prop :=
  ch.toNat < 0x20 ∧ quoteChar ch
    = [0x5C, 0x75, 0x30, 0x30, hexDigit (ch.toNat / 16), hexDigit (ch.toNat % 16)]

/-- Whether a character **stands for itself**. -/
def Plain (ch : Char) : Prop :=
  quoteChar ch = String.utf8EncodeChar ch
    ∧ ∀ b ∈ String.utf8EncodeChar ch, 0x20 ≤ b ∧ b ≠ 0x22 ∧ b ≠ 0x5C

instance : DecidablePred Plain := fun _ =>
  @instDecidableAnd _ _ inferInstance (List.decidableBAll _ _)

/-- **A character is written in one of three ways.** -/
theorem quoteChar_cases (ch : Char) : Lettered ch ∨ Numbered ch ∨ Plain ch := by
  unfold Lettered Numbered Plain
  unfold quoteChar
  split
  case h_8 _ hquote hbackslash _ _ _ _ _ =>
    by_cases hcontrol : ch.toNat < 0x20
    · exact .inr (.inl ⟨hcontrol, if_pos hcontrol⟩)
    · refine .inr (.inr ⟨if_neg hcontrol, fun b hb => ?_⟩)
      by_cases hascii : ch.toNat < 0x80
      · rw [utf8EncodeChar_of_lt hascii, List.mem_singleton] at hb
        have hnat : b.toNat = ch.toNat := by
          rw [hb, Nat.toUInt8_eq, UInt8.toNat_ofNat', Nat.mod_eq_of_lt (by omega)]
        have hne : ∀ {d : Char}, ch ≠ d → b.toNat ≠ d.toNat := fun hd he =>
          hd (Char.toNat_inj.mp (hnat ▸ he))
        refine ⟨UInt8.le_iff_toNat_le.mpr (by rw [hnat]; exact Nat.le_of_not_lt hcontrol), ?_, ?_⟩
        · exact fun he => hne hquote (by rw [he]; rfl)
        · exact fun he => hne hbackslash (by rw [he]; rfl)
      · have hle := le_of_mem_utf8EncodeChar hascii hb
        refine ⟨UInt8.le_trans (by decide) hle, ?_, ?_⟩ <;>
        · rintro rfl
          exact absurd hle (by decide)
  all_goals exact .inl ⟨_, _, rfl, rfl, rfl, rfl, by decide, by decide⟩

/-- Octets that stand for themselves are a spelling of themselves. -/
theorem spellsOctets_self {octets : Bytes} (h : ∀ b ∈ octets, 0x20 ≤ b ∧ b ≠ 0x22 ∧ b ≠ 0x5C) :
    SpellsOctets octets octets := by
  induction octets with
  | nil => exact .nil
  | cons b octets ih =>
    exact .plain (h b List.mem_cons_self) (ih fun x hx => h x (List.mem_cons_of_mem _ hx))

/-- **A character is written** as a spelling of itself. -/
theorem spellsOctets_quoteChar (ch : Char) :
    SpellsOctets (quoteChar ch) (String.utf8EncodeChar ch) := by
  obtain ⟨letter, value, hquote, hvalue, hescape, -⟩ | ⟨hlow, hquote⟩ | ⟨hquote, hplain⟩ :=
    quoteChar_cases ch
  · rw [hquote, hvalue]
    exact .escape (.letter (escape?_eq_lookup letter ▸ hescape)) .nil
  · have hunit := Escapes.unit (isUnit_hexDigit hlow) (by omega)
    have hspells := SpellsOctets.escape hunit .nil
    rw [codePoint, Char.ofNat_toNat, List.append_nil, List.append_nil] at hspells
    rw [hquote]
    exact hspells
  · rw [hquote]
    exact spellsOctets_self hplain

/-! ## Strings -/

/-- **A text is written** as a spelling of itself. -/
theorem spells_quoteChar (s : String) : Spells (s.toList.flatMap quoteChar) s := by
  show SpellsOctets _ (s.toList.flatMap String.utf8EncodeChar)
  induction s.toList with
  | nil => exact .nil
  | cons ch cs ih => exact (spellsOctets_quoteChar ch).append ih

/-- **A string reads back** as a value. -/
theorem readString_quote (expected : String) {s : String} (h : c.rest = quote s ++ rest) :
    Gives (readString expected c) s rest :=
  (spells_quoteChar s).readString_gives expected Blank.nil (h.trans (List.append_assoc ..))

/-! ## What a string is made of -/

/-- No digit is a control. -/
theorem le_hexDigit {n : Nat} (h : n < 16) : 0x20 ≤ hexDigit n := by
  have hall : ∀ m : Fin 16, 0x20 ≤ hexDigit m := by decide
  exact hall ⟨n, h⟩

/-- A digit is of ASCII. -/
theorem hexDigit_lt {n : Nat} (h : n < 16) : hexDigit n < 0x80 := by
  have hall : ∀ m : Fin 16, hexDigit m < 0x80 := by decide
  exact hall ⟨n, h⟩

/-- A character is written as a text. -/
theorem isText_quoteChar (ch : Char) : IsText (quoteChar ch) := by
  obtain ⟨letter, value, hquote, -, -, -, -, hlt⟩ | ⟨hlow, hquote⟩ | ⟨hquote, -⟩ :=
    quoteChar_cases ch
  · rw [hquote]
    refine isText_of_lt ?_
    simp only [List.forall_mem_cons, hlt, List.not_mem_nil, false_imp_iff, implies_true, and_true]
    decide
  · rw [hquote]
    refine isText_of_lt ?_
    simp only [List.forall_mem_cons, hexDigit_lt (Nat.mod_lt _ (by decide : 0 < 16)),
      hexDigit_lt (show ch.toNat / 16 < 16 by omega), List.not_mem_nil, false_imp_iff, implies_true,
      and_true]
    decide
  · rw [hquote]
    exact isText_utf8EncodeChar ch

/-- **A string is written as a text.** -/
theorem isText_quote (s : String) : IsText (quote s) := by
  have hquote : IsText [0x22] := isText_of_lt (by simp)
  refine (hquote.append (isText_flatten fun piece hpiece => ?_)).append hquote
  obtain ⟨ch, -, rfl⟩ := List.mem_map.mp hpiece
  exact isText_quoteChar ch

/-- A character is written without controls. -/
theorem noControl_quoteChar (ch : Char) : NoControl (quoteChar ch) := by
  obtain ⟨letter, value, hquote, -, -, -, hle, -⟩ | ⟨hlow, hquote⟩ | ⟨hquote, hplain⟩ :=
    quoteChar_cases ch
  · rw [hquote]
    simp only [noControl_cons, noControl_nil, hle]
    decide
  · rw [hquote]
    simp only [noControl_cons, noControl_nil, le_hexDigit (Nat.mod_lt _ (by decide : 0 < 16)),
      le_hexDigit (show ch.toNat / 16 < 16 by omega)]
    decide
  · rw [hquote]
    exact fun b hb => (hplain b hb).1

/-- **A string is written without controls**, also one that has some. -/
theorem noControl_quote (s : String) : NoControl (quote s) := by
  have hcontents : NoControl (s.toList.flatMap quoteChar) := fun b hb => by
    obtain ⟨ch, -, hch⟩ := List.mem_flatMap.mp hb
    exact noControl_quoteChar ch b hch
  unfold quote
  simp only [noControl_cons, noControl_append, noControl_nil, hcontents]
  decide

end RecordRelay.Json
