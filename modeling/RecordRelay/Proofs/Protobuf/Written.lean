import RecordRelay.Person
import Mathlib.Tactic.NormNum

/-!
# Reading a message back

What is written as a varint, a key or a text field **reads back**, whatever follows it. The one
condition is a reader's own: a varint has at most ten octets, and the tenth of them holds a single
bit, so only numbers below `2 ^ 64` come back. For a text this says that its octets can be counted
in 64 bits.

A person is written field by field and read field by field. Merging a field that was written sets
that name and goes on behind it (`mergeWire_encodeText`), and a name that was not written is empty
already.
-/

namespace RecordRelay

namespace Protobuf

/-! ## Varints -/

namespace Varint

/-- One octet that says that more follow. -/
theorem toNat_continued (n : Nat) : (n % 128 + 128).toUInt8.toNat = n % 128 + 128 := by
  simp only [Nat.toUInt8_eq, UInt8.toNat_ofNat']
  omega

/-- **A number reads back** if the octets that may be read can hold it. The last of them has room
for one bit only. -/
theorem readGroups_encode {spare n : Nat} (h : n < 2 * 128 ^ spare) (rest : Bytes) :
    readGroups (spare + 1) (encode n ++ rest) = some (n, rest) := by
  induction spare generalizing n with
  | zero =>
    have hn : n = 0 ∨ n = 1 := by omega
    rw [encode, if_pos (by omega)]
    obtain rfl | rfl := hn <;> rfl
  | succ spare ih =>
    rw [encode]
    split
    · next hn =>
      have hb : n.toUInt8.toNat = n := by
        rw [Nat.toUInt8_eq, UInt8.toNat_ofNat', Nat.mod_eq_of_lt (by omega)]
      have hlt : n.toUInt8 < 128 := UInt8.lt_iff_toNat_lt.mpr (by rw [hb]; exact hn)
      rw [List.singleton_append, readGroups, if_pos hlt, if_neg (by simp), hb]
    · next hn =>
      have hb := toNat_continued n
      have hge : ¬ (n % 128 + 128).toUInt8 < 128 := by
        rw [UInt8.lt_iff_toNat_lt, hb]
        exact Nat.not_lt.mpr (Nat.le_add_left ..)
      have hdiv : n / 128 < 2 * 128 ^ spare := by
        rw [pow_succ] at h
        omega
      rw [List.cons_append, readGroups, if_neg hge, ih hdiv, Option.map_some, hb]
      simp only [Option.some.injEq, Prod.mk.injEq, and_true]
      omega

/-- **A number below `2 ^ 64` reads back.** -/
theorem read?_encode {n : Nat} (h : n < 2 ^ 64) (rest : Bytes) :
    read? (encode n ++ rest) = some (n, rest) :=
  readGroups_encode (by norm_num at h ⊢; exact h) rest

end Varint

/-! ## Fields -/

/-- Every wire type has its code. -/
@[simp]
theorem WireType.ofCode?_code (w : WireType) : WireType.ofCode? w.code = some w := by
  cases w <;> rfl

/-- The codes of the wire types take three bits. -/
theorem WireType.code_lt (w : WireType) : w.code < 8 := by
  cases w <;> decide

/-- A number **read as a key** is the number of a field, from one on and in 29 bits, with the code of
a wire type. -/
theorem readKey_of_read? {k : Key} {bytes left : Bytes} (hpos : 0 < k.number)
    (hlt : k.number < 2 ^ 29)
    (h : Varint.read? bytes = some (k.number * 8 + k.wire.code, left)) :
    readKey bytes = .ok (k, left) := by
  have hcode := k.wire.code_lt
  have hmod : (k.number * 8 + k.wire.code) % 8 = k.wire.code := by omega
  have hdiv : (k.number * 8 + k.wire.code) / 8 = k.number := by omega
  unfold readKey
  rw [h]
  simp only [hmod, hdiv, WireType.ofCode?_code]
  rw [if_neg (by omega), if_neg (by omega)]

/-- **A key reads back.** Its number is from one on and has to fit into 29 bits. -/
theorem readKey_encode {k : Key} (hpos : 0 < k.number) (hlt : k.number < 2 ^ 29) (rest : Bytes) :
    readKey (k.encode ++ rest) = .ok (k, rest) := by
  have hcode := k.wire.code_lt
  exact readKey_of_read? hpos hlt (Varint.read?_encode (by omega) rest)

/-- A wire type is the one with its code. -/
theorem WireType.code_of_ofCode? {code : Nat} {w : WireType} (h : WireType.ofCode? code = some w) :
    code = w.code := by
  unfold ofCode? at h
  split at h <;> cases h <;> rfl

/-- **What was read as a key** was the number of a field, from one on and in 29 bits, with the code
of a wire type. -/
theorem read?_of_readKey {k : Key} {bytes left : Bytes} (h : readKey bytes = .ok (k, left)) :
    0 < k.number ∧ k.number < 2 ^ 29
      ∧ Varint.read? bytes = some (k.number * 8 + k.wire.code, left) := by
  unfold readKey at h
  split at h
  · cases h
  · next n rest hread =>
    split at h
    · cases h
    · next hsize =>
      split at h
      · cases h
      · next wire hwire =>
        split at h
        · cases h
        · next hzero =>
          cases h
          have hcode := WireType.code_of_ofCode? hwire
          have hn : n / 8 * 8 + wire.code = n := by omega
          refine ⟨Nat.pos_of_ne_zero hzero, ?_, ?_⟩
          · show n / 8 < 2 ^ 29
            omega
          · show _ = some (n / 8 * 8 + wire.code, left)
            rw [hn, hread]

/-- The octets in front are split off. -/
theorem take?_append (octets rest : Bytes) :
    take? octets.length (octets ++ rest) = some (octets, rest) := by
  rw [take?_eq, if_pos (by simp), List.take_left, List.drop_left]

/-- **A text reads back** behind its length. -/
theorem readText_encode {s : String} (h : (Bytes.ofString s).length < 2 ^ 64) (rest : Bytes) :
    readText .lengthDelimited
        (Varint.encode (Bytes.ofString s).length ++ (Bytes.ofString s ++ rest))
      = .ok (s, rest) := by
  unfold readText
  rw [if_neg (by simp), Varint.read?_encode h]
  dsimp only
  rw [take?_append]
  dsimp only
  rw [Bytes.text?_ofString]

end Protobuf

/-! ## Persons -/

/-- The name with the number of a name is that name. -/
@[simp]
theorem NameField.ofNumber?_number (field : NameField) :
    NameField.ofNumber? field.number = some field := by
  cases field <;> rfl

namespace Person

open Protobuf

/-- Whether **the octets of the names can be counted** in 64 bits, as those of all texts in a
memory can. -/
def Counted (p : Person) : Prop := ∀ field, (Bytes.ofString (p.name field)).length < 2 ^ 64

/-- Nothing is left to merge. -/
theorem mergeWire_nil (p : Person) : p.mergeWire [] = .ok p := by
  rw [mergeWire]
  exact if_pos rfl

/-- Octets that begin with a key are some. -/
theorem isEmpty_of_readKey {bytes left : Bytes} {key : Key} (h : readKey bytes = .ok (key, left)) :
    bytes.isEmpty = false := by
  cases bytes with
  | nil => cases h
  | cons => rfl

/-- **Merging behind the key of a name**: the text that follows becomes the name. -/
theorem mergeWire_of_readText {p : Person} {bytes left rest : Bytes} {key : Key}
    {field : NameField} {s : String} (hkey : readKey bytes = .ok (key, left))
    (hfield : NameField.ofNumber? key.number = some field)
    (htext : readText key.wire left = .ok (s, rest)) :
    p.mergeWire bytes = (p.withName field s).mergeWire rest := by
  rw [mergeWire, isEmpty_of_readKey hkey]
  simp only [Bool.false_eq_true, if_false]
  split
  · next hfault =>
    rw [hkey] at hfault
    cases hfault
  · next hread =>
    rw [hkey] at hread
    cases hread
    simp only [hfield]
    split
    · next hfault =>
      rw [htext] at hfault
      cases hfault
    · next hread =>
      rw [htext] at hread
      cases hread
      rfl

/-- What follows is **no text**, and the complaint names the name. -/
theorem mergeWire_of_readText_error {p : Person} {bytes left : Bytes} {key : Key}
    {field : NameField} {fault : Fault} (hkey : readKey bytes = .ok (key, left))
    (hfield : NameField.ofNumber? key.number = some field)
    (htext : readText key.wire left = .error fault) :
    p.mergeWire bytes = .error ⟨fault, some (fieldName field)⟩ := by
  rw [mergeWire, isEmpty_of_readKey hkey]
  simp only [Bool.false_eq_true, if_false]
  split
  · next hfault =>
    rw [hkey] at hfault
    cases hfault
  · next hread =>
    rw [hkey] at hread
    cases hread
    simp only [hfield]
    split
    · next hfault =>
      rw [htext] at hfault
      cases hfault
      rfl
    · next hread =>
      rw [htext] at hread
      cases hread

/-- **Merging behind any other key**: the value is passed. -/
theorem mergeWire_of_passValue {p : Person} {bytes left : Bytes} {key : Key} {rest : Left left}
    (hkey : readKey bytes = .ok (key, left)) (hfield : NameField.ofNumber? key.number = none)
    (hpass : passValue maxDepth key left = .ok rest) : p.mergeWire bytes = p.mergeWire rest.1 := by
  rw [mergeWire, isEmpty_of_readKey hkey]
  simp only [Bool.false_eq_true, if_false]
  split
  · next hfault =>
    rw [hkey] at hfault
    cases hfault
  · next hread =>
    rw [hkey] at hread
    cases hread
    simp only [hfield, hpass]

/-- **Merging a text field** sets its name and goes on behind it. -/
theorem mergeWire_encodeText (p : Person) (field : NameField) {s : String}
    (h : (Bytes.ofString s).length < 2 ^ 64) (rest : Bytes) :
    p.mergeWire (encodeText field.number s ++ rest) = (p.withName field s).mergeWire rest := by
  have hbytes : encodeText field.number s ++ rest = Key.encode ⟨field.number, .lengthDelimited⟩
      ++ (Varint.encode (Bytes.ofString s).length ++ (Bytes.ofString s ++ rest)) := by
    simp only [encodeText, List.append_assoc]
  rw [hbytes]
  exact mergeWire_of_readText (readKey_encode (by cases field <;> decide)
    (by cases field <;> decide) _) field.ofNumber?_number (readText_encode h rest)

/-- Merging a name as it is written sets it, if it was not set before. -/
theorem mergeWire_wireField {p : Person} {field : NameField} {s : String}
    (hunset : p.name field = "") (h : (Bytes.ofString s).length < 2 ^ 64) (rest : Bytes) :
    p.mergeWire (wireField field s ++ rest) = (p.withName field s).mergeWire rest := by
  unfold wireField
  split
  · next hs =>
    have hsame : p.withName field s = p := by
      rw [hs, ← hunset]
      cases field <;> rfl
    rw [hsame, List.nil_append]
  · exact p.mergeWire_encodeText field h rest

/-- **A message reads back** as the person it was written for, complete or not. -/
theorem ofWire?_toWire {p : Person} (h : p.Counted) : ofWire? p.toWire = .ok p := by
  have hunset : unnamed.name .first = "" := rfl
  have hstill : (unnamed.withName .first p.firstname).name .last = "" := rfl
  have hlast := mergeWire_wireField hstill (h .last) []
  rw [mergeWire_nil, List.append_nil] at hlast
  exact (mergeWire_wireField hunset (h .first) _).trans hlast

end Person

end RecordRelay
