import RecordRelay.Proofs.Octets
import RecordRelay.Proofs.Protobuf.Written

/-!
# Messages without controls

Whatever a reader passes of a message, what it leaves is an **end of the message** (`IsSuffix`), so
an octet that occurs nowhere in the message occurs nowhere in what is left either.

Of a message without controls every varint is at least `0x20`: its lowest octet alone would be one
otherwise, and with more octets behind it the highest counts at least 128 times its own value. A key
is a varint that holds the number of its field times eight, so the fields of such a message are
numbered from four on. The names have numbers one and two, hence **a message without controls names
nobody** (`mergeWire_of_noControl`), whatever groups it opens and whatever it makes a reader pass.
-/

namespace RecordRelay

/-- What ends octets without controls holds none. -/
theorem Bytes.NoControl.of_suffix {left bytes : Bytes} (h : Bytes.NoControl bytes)
    (hleft : left <:+ bytes) : Bytes.NoControl left :=
  fun b hb => h b (hleft.mem hb)

namespace Protobuf

open Bytes

variable {bytes left : Bytes}

/-! ## What is left -/

/-- Behind a varint an end of the octets is left. -/
theorem Varint.readGroups_suffix {limit n : Nat}
    (h : Varint.readGroups limit bytes = some (n, left)) : left <:+ bytes := by
  fun_induction Varint.readGroups limit bytes generalizing n left with
  | case1 | case2 | case3 => cases h
  | case4 limit b rest _ _ =>
    cases h
    exact List.suffix_cons b _
  | case5 limit b rest _ ih =>
    obtain ⟨⟨m, rest'⟩, hm, heq⟩ := Option.map_eq_some_iff.mp h
    cases heq
    exact (ih hm).trans (List.suffix_cons b rest)

/-- Behind a key an end of the octets is left. -/
theorem readKey_suffix {key : Key} (h : readKey bytes = .ok (key, left)) : left <:+ bytes := by
  exact Varint.readGroups_suffix (read?_of_readKey h).2.2

/-- Behind a number of octets an end of them is left. -/
theorem take?_suffix {n : Nat} {taken : Bytes} (h : take? n bytes = some (taken, left)) :
    left <:+ bytes := by
  rw [take?_eq] at h
  split at h
  · cases h
    exact List.drop_suffix n bytes
  · cases h

/-- Behind octets that are passed an end of them is left. -/
theorem pass_suffix {n : Nat} {rest : Left bytes} (h : pass n bytes = .ok rest) :
    rest.1 <:+ bytes := by
  unfold pass at h
  split at h
  · cases h
  · next htake =>
    cases h
    exact take?_suffix htake

/-- Behind a varint and the octets that it counts an end of the octets is left. -/
theorem passVarint_suffix {length : Nat → Nat} {rest : Left bytes}
    (h : passVarint length bytes = .ok rest) : rest.1 <:+ bytes := by
  unfold passVarint at h
  split at h
  · cases h
  · next n left hread =>
    split at h
    · cases h
    · next inner hpass =>
      cases h
      exact (pass_suffix hpass).trans (Varint.readGroups_suffix hread)

/-- Behind a group an end of the octets is left, if that holds of the values of its fields. -/
theorem passGroup_suffix {start : Bytes}
    {field : Key → (bytes : Bytes) → Except Fault (Left bytes)}
    (hfield : ∀ key bytes rest, field key bytes = .ok rest → rest.1 <:+ bytes)
    {number : Nat} {le : bytes.length ≤ start.length} {rest : Left start}
    (h : passGroup field number bytes le = .ok rest) : rest.1 <:+ bytes := by
  fun_induction passGroup field number bytes le with
  | case1 | case3 | case4 => cases h
  | case2 bytes le key left hkey _ _ _ =>
    cases h
    exact readKey_suffix hkey
  | case5 bytes le key left hkey _ _ inner hvalue _ ih =>
    exact ((ih h).trans (hfield key left inner hvalue)).trans (readKey_suffix hkey)

/-- Behind the value of a field **an end of the octets is left**. The levels of nesting are those of
the groups in it. -/
theorem passValue_suffix {depth : Nat} {key : Key} {rest : Left bytes}
    (h : passValue depth key bytes = .ok rest) : rest.1 <:+ bytes := by
  induction depth generalizing key bytes with
  | zero => cases h
  | succ depth ih =>
    rw [passValue] at h
    split at h
    · exact passVarint_suffix h
    · exact pass_suffix h
    · exact pass_suffix h
    · exact passVarint_suffix h
    · exact passGroup_suffix (fun key bytes rest => ih) h
    · cases h

/-! ## Keys of messages without controls -/

/-- A varint without controls is **at least `0x20`**. -/
theorem Varint.le_readGroups {limit n : Nat} (hbytes : NoControl bytes)
    (h : Varint.readGroups limit bytes = some (n, left)) : 0x20 ≤ n := by
  fun_induction Varint.readGroups limit bytes generalizing n left with
  | case1 | case2 | case3 => cases h
  | case4 limit b rest _ _ =>
    cases h
    exact UInt8.le_iff_toNat_le.mp (noControl_cons.mp hbytes).1
  | case5 limit b rest _ ih =>
    obtain ⟨⟨m, rest'⟩, hm, heq⟩ := Option.map_eq_some_iff.mp h
    have hle := ih (noControl_cons.mp hbytes).2 hm
    cases heq
    omega

/-- So its fields are numbered **from four on**. -/
theorem le_number_of_readKey {key : Key} (hbytes : NoControl bytes)
    (h : readKey bytes = .ok (key, left)) : 4 ≤ key.number := by
  have hle := Varint.le_readGroups hbytes (read?_of_readKey h).2.2
  have hcode := key.wire.code_lt
  omega

end Protobuf

/-- The names have smaller numbers. -/
theorem NameField.ofNumber?_of_le {n : Nat} (h : 4 ≤ n) : NameField.ofNumber? n = none := by
  unfold ofNumber?
  split
  · omega
  · omega
  · rfl

/-- **A message without controls names nobody**: if it can be merged at all, nothing changes. -/
theorem Person.mergeWire_of_noControl {p q : Person} {bytes : Bytes}
    (hbytes : Bytes.NoControl bytes) (h : p.mergeWire bytes = .ok q) : q = p := by
  fun_induction Person.mergeWire p bytes with
  | case1 p bytes =>
    cases h
    rfl
  | case2 | case3 | case5 => cases h
  | case4 p bytes _ key left hkey _ field hfield s rest htext _ ih =>
    rw [NameField.ofNumber?_of_le (Protobuf.le_number_of_readKey hbytes hkey)] at hfield
    cases hfield
  | case6 p bytes _ key left hkey _ _ rest hpass _ ih =>
    have hrest := (Protobuf.passValue_suffix hpass).trans (Protobuf.readKey_suffix hkey)
    exact ih (hbytes.of_suffix hrest) h

end RecordRelay
