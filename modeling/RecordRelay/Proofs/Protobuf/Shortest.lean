import RecordRelay.Proofs.Octets
import RecordRelay.Proofs.Protobuf.Written

/-!
# What is written is shortest

A varint may be spelled in more octets than it needs, a name may come more than once, and unknown
fields may stand anywhere. Writing does none of this, and so **a person is never written longer than
a message that was read** (`length_toWire_le_of_ofWire?`).

That follows the reader field by field. A name that is read took a key, a length and its octets, and
the same name is written with the one octet of its key and the shortest spelling of its length. What
is read over an earlier name makes the message longer and not the person.
-/

namespace RecordRelay

namespace Protobuf.Varint

/-- A number in few groups of seven bits is written in **as few octets**. -/
theorem length_encode_le {groups n : Nat} (hpos : 0 < groups) (h : n < 128 ^ groups) :
    (encode n).length ≤ groups := by
  induction groups generalizing n with
  | zero => exact absurd hpos (Nat.lt_irrefl 0)
  | succ groups ih =>
    rw [encode]
    split
    · exact Nat.le_add_left 1 groups
    · next hn =>
      rw [pow_succ] at h
      cases groups with
      | zero => exact absurd h (by simpa using hn)
      | succ groups => exact Nat.succ_le_succ (ih (Nat.succ_pos _) (by omega))

/-- A number in more groups takes **as many octets**. -/
theorem lt_length_encode {groups n : Nat} (h : 128 ^ groups ≤ n) : groups < (encode n).length := by
  induction groups generalizing n with
  | zero =>
    rw [encode]
    split <;> exact Nat.succ_pos _
  | succ groups ih =>
    rw [pow_succ] at h
    have hle : 1 ≤ 128 ^ groups := Nat.one_le_pow _ _ (by decide)
    rw [encode, if_neg (by omega)]
    exact Nat.succ_lt_succ (ih (by omega))

/-- **No spelling of a number is shorter** than the one that is written. -/
theorem length_encode_add_le {limit n : Nat} {bytes left : Bytes}
    (h : readGroups limit bytes = some (n, left)) :
    (encode n).length + left.length ≤ bytes.length := by
  fun_induction readGroups limit bytes generalizing n left with
  | case1 | case2 | case3 => cases h
  | case4 limit b rest hb _ =>
    cases h
    have hsmall : b.toNat < 128 := UInt8.lt_iff_toNat_lt.mp hb
    rw [encode, if_pos hsmall, List.length_singleton, List.length_cons, Nat.add_comm]
  | case5 limit b rest _ ih =>
    obtain ⟨⟨m, rest'⟩, hm, heq⟩ := Option.map_eq_some_iff.mp h
    obtain ⟨rfl, rfl⟩ := Prod.mk.inj heq
    have hle := ih hm
    rw [List.length_cons, encode]
    split
    · rw [List.length_singleton]
      have hpos : 0 < (encode m).length := by
        rw [encode]
        split <;> exact Nat.succ_pos _
      omega
    · have hdiv : (b.toNat % 128 + 128 * m) / 128 = m := by omega
      rw [List.length_cons, hdiv]
      omega

end Protobuf.Varint

namespace Person

open Protobuf

/-- The number of octets in which **the length of a text** is written. -/
def lengthOctets (s : String) : Nat := (Varint.encode (Bytes.ofString s).length).length

/-- The key of a name has one octet. -/
theorem length_key (field : NameField) :
    (Key.encode ⟨field.number, .lengthDelimited⟩).length = 1 := by
  rw [Key.encode, Varint.encode]
  cases field <;> rfl

/-- A name as a field has one octet, its length and its own octets; **an empty name has none**. -/
theorem length_wireField (field : NameField) (s : String) :
    (wireField field s).length
      = if s = "" then 0 else 1 + lengthOctets s + (Bytes.ofString s).length := by
  unfold wireField
  split
  · rfl
  · rw [encodeText, List.length_append, List.length_append, length_key]
    rfl

/-- A person on the wire has the octets of both fields. -/
theorem length_toWire (p : Person) :
    p.toWire.length
      = (wireField .first p.firstname).length + (wireField .last p.lastname).length := by
  rw [toWire, List.length_append]

/-- A complete person **on the wire**: two keys, two lengths and the octets of the names. -/
theorem length_toWire_of_ne {p : Person} (hfirst : p.firstname ≠ "") (hlast : p.lastname ≠ "") :
    p.toWire.length = 2 + (lengthOctets p.firstname + lengthOctets p.lastname)
      + ((Bytes.ofString p.firstname).length + (Bytes.ofString p.lastname).length) := by
  rw [length_toWire, length_wireField, length_wireField, if_neg hfirst, if_neg hlast]
  omega

/-- A text that is read took **its length and its octets**. -/
theorem length_readText_le {wire : WireType} {bytes left : Bytes} {s : String}
    (h : readText wire bytes = .ok (s, left)) :
    lengthOctets s + (Bytes.ofString s).length + left.length ≤ bytes.length := by
  unfold readText at h
  split at h
  · cases h
  split at h
  · cases h
  · next n mid hread =>
    have hlength := Varint.length_encode_add_le hread
    split at h
    · cases h
    · next octets left' htake =>
      rw [take?_eq] at htake
      split at htake
      · next hn =>
        cases htake
        split at h
        · cases h
        · next t ht =>
          cases h
          have hoctets : (Bytes.ofString s).length = n := by
            rw [Bytes.ofString_of_text? ht, List.length_take, Nat.min_eq_left hn]
          rw [lengthOctets, hoctets, List.length_drop]
          omega
      · cases htake

/-- A name that is set is written **in no more octets than its field took**. -/
theorem length_toWire_withName_le (p : Person) (field : NameField) (s : String) :
    (p.withName field s).toWire.length
      ≤ p.toWire.length + (1 + lengthOctets s + (Bytes.ofString s).length) := by
  have hfield : (wireField field s).length ≤ 1 + lengthOctets s + (Bytes.ofString s).length := by
    rw [length_wireField]
    split
    · exact Nat.zero_le _
    · exact Nat.le_refl _
  rw [length_toWire, length_toWire]
  cases field <;> dsimp only [withName] <;> omega

/-- Merging a message makes a person **no longer than the message is**. -/
theorem length_toWire_le_of_mergeWire {p q : Person} {bytes : Bytes}
    (h : p.mergeWire bytes = .ok q) : q.toWire.length ≤ p.toWire.length + bytes.length := by
  fun_induction mergeWire p bytes with
  | case1 p bytes =>
    cases h
    exact Nat.le_add_right ..
  | case2 | case3 | case5 => cases h
  | case4 p bytes _ key left hkey lt field _ s rest hs _ ih =>
    have hrest := ih h
    have hlength := length_readText_le hs
    have hname := length_toWire_withName_le p field s
    omega
  | case6 p bytes _ key left hkey lt _ rest _ hle ih =>
    have hrest := ih h
    omega

/-- **A person is not written longer than the message that was read.** -/
theorem length_toWire_le_of_ofWire? {p : Person} {body : Bytes} (h : ofWire? body = .ok p) :
    p.toWire.length ≤ body.length := by
  have hle := length_toWire_le_of_mergeWire h
  rwa [show unnamed.toWire.length = 0 from rfl, Nat.zero_add] at hle

end Person

end RecordRelay
