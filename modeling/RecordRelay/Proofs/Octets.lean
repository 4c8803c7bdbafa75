import RecordRelay.Bytes

/-!
# Octets of a text

Two things are said here about octets without looking at what they mean. They are a **text** if
they are the UTF-8 encoding of one, and texts can be put one behind the other. They hold **no
control** if none of them is below `0x20`; in UTF-8 the control characters are the only ones with
such octets, since the octets of a character outside ASCII all have their top bit set.
-/

namespace RecordRelay.Bytes

/-! ## Texts -/

/-- Whether octets **are a text**. -/
def IsText (bytes : Bytes) : Prop := ∃ s, bytes = ofString s

/-- **Encoding undoes decoding.** -/
theorem ofString_of_text? {bytes : Bytes} {s : String} (h : text? bytes = some s) :
    ofString s = bytes := by
  unfold text? String.fromUTF8? at h
  split at h
  · cases h
    rw [← List.toByteArray_inj, toByteArray_ofString]
    rfl
  · cases h

/-- What is a text can be decoded. -/
theorem IsText.isSome_text? {bytes : Bytes} (h : IsText bytes) : (text? bytes).isSome := by
  obtain ⟨s, rfl⟩ := h
  rw [text?_ofString]
  rfl

/-- A text of characters has the octets of the characters. -/
theorem ofString_ofList (cs : List Char) :
    ofString (String.ofList cs) = cs.flatMap String.utf8EncodeChar := by
  rw [ofString, String.toList_ofList]

/-- Texts are encoded one after the other. -/
theorem ofString_append (s t : String) : ofString (s ++ t) = ofString s ++ ofString t := by
  rw [ofString, String.toList_append, List.flatMap_append]
  rfl

/-- A character is a text. -/
theorem isText_utf8EncodeChar (c : Char) : IsText (String.utf8EncodeChar c) :=
  ⟨String.ofList [c], by rw [ofString_ofList, List.flatMap_singleton]⟩

/-- Nothing is a text. -/
theorem isText_nil : IsText [] := ⟨"", rfl⟩

/-- Two texts, one behind the other, **are a text**. -/
theorem IsText.append {a b : Bytes} (ha : IsText a) (hb : IsText b) : IsText (a ++ b) := by
  obtain ⟨s, rfl⟩ := ha
  obtain ⟨t, rfl⟩ := hb
  exact ⟨s ++ t, (ofString_append s t).symm⟩

/-- So are any number of them. -/
theorem isText_flatten {pieces : List Bytes} (h : ∀ piece ∈ pieces, IsText piece) :
    IsText pieces.flatten := by
  induction pieces with
  | nil => exact isText_nil
  | cons piece pieces ih =>
    rw [List.flatten_cons]
    exact (h piece List.mem_cons_self).append
      (ih fun other hother => h other (List.mem_cons_of_mem _ hother))

/-! ## ASCII and the rest -/

/-- A character of ASCII is **one octet**. -/
theorem utf8EncodeChar_of_lt {c : Char} (h : c.toNat < 0x80) :
    String.utf8EncodeChar c = [c.toNat.toUInt8] := by
  unfold String.utf8EncodeChar
  exact if_pos (Nat.le_of_lt_succ h)

/-- The octets of any other character all have their **top bit set**. -/
theorem le_of_mem_utf8EncodeChar {c : Char} (h : ¬ c.toNat < 0x80) {b : UInt8}
    (hb : b ∈ String.utf8EncodeChar c) : 0x80 ≤ b := by
  have hc : ¬ c.val.toNat ≤ 0x7F := fun hle => h (Nat.lt_succ_of_le hle)
  unfold String.utf8EncodeChar at hb
  simp only [hc, if_false] at hb
  rw [UInt8.le_iff_toNat_le]
  split at hb
  · simp only [List.mem_cons, List.not_mem_nil, or_false] at hb
    obtain rfl | rfl := hb <;> simp only [UInt8.toNat_ofNat', UInt8.reduceToNat] <;> omega
  · split at hb
    · simp only [List.mem_cons, List.not_mem_nil, or_false] at hb
      obtain rfl | rfl | rfl := hb <;> simp only [UInt8.toNat_ofNat', UInt8.reduceToNat] <;> omega
    · simp only [List.mem_cons, List.not_mem_nil, or_false] at hb
      obtain rfl | rfl | rfl | rfl := hb <;> simp only [UInt8.toNat_ofNat', UInt8.reduceToNat] <;>
        omega

/-- A list of octets of ASCII is a text. -/
theorem isText_of_lt {bytes : Bytes} (h : ∀ b ∈ bytes, b < 0x80) : IsText bytes := by
  induction bytes with
  | nil => exact isText_nil
  | cons b bytes ih =>
    have hb : b.toNat < 0x80 := UInt8.lt_iff_toNat_lt.mp (h b List.mem_cons_self)
    have hchar : (Char.ofNat b.toNat).toNat = b.toNat := by
      rw [Char.ofNat, dif_pos (Or.inl (by omega))]
      rfl
    have hone : IsText [b] := by
      have hc := isText_utf8EncodeChar (Char.ofNat b.toNat)
      rwa [utf8EncodeChar_of_lt (by rw [hchar]; exact hb), hchar, Nat.toUInt8_eq,
        UInt8.ofNat_toNat] at hc
    exact hone.append (ih fun x hx => h x (List.mem_cons_of_mem _ hx))

/-! ## Controls -/

/-- Whether octets hold **no control**. -/
def NoControl (bytes : Bytes) : Prop := ∀ b ∈ bytes, 0x20 ≤ b

/-- Octets without controls, one list behind the other. -/
@[simp]
theorem noControl_append {a b : Bytes} : NoControl (a ++ b) ↔ NoControl a ∧ NoControl b :=
  List.forall_mem_append

/-- The first octet and the others. -/
@[simp]
theorem noControl_cons {b : UInt8} {bytes : Bytes} :
    NoControl (b :: bytes) ↔ 0x20 ≤ b ∧ NoControl bytes :=
  List.forall_mem_cons

/-- Nothing holds no control. -/
@[simp]
theorem noControl_nil : NoControl [] := by
  intro b hb
  cases hb

end RecordRelay.Bytes
