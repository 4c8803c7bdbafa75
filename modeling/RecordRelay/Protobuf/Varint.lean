import RecordRelay.Bytes

/-!
# Variable-length integers

A **varint** is a number below `2 ^ 64` in groups of seven bits, the lowest first; every octet but
the last has its top bit set. Ten octets are enough, and the tenth can only be 0 or 1. Longer
spellings of a small number are read too, up to ten octets.
-/

namespace RecordRelay.Protobuf.Varint

/-- The shortest spelling of a number. -/
def encode (n : Nat) : Bytes :=
  if n < 128 then [n.toUInt8] else (n % 128 + 128).toUInt8 :: encode (n / 128)

/-- Reads at most `limit` octets as a number. -/
def readGroups : (limit : Nat) → Bytes → Option (Nat × Bytes)
  | 0, _ => none
  | _ + 1, [] => none
  | limit + 1, b :: rest =>
    if b < 128 then
      if limit = 0 ∧ 2 ≤ b then none else some (b.toNat, rest)
    else (readGroups limit rest).map fun (n, left) => (b.toNat % 128 + 128 * n, left)

/-- **Reads a varint**, with what follows it. -/
def read? (bytes : Bytes) : Option (Nat × Bytes) := readGroups 10 bytes

theorem readGroups_lt {limit : Nat} {bytes : Bytes} {n : Nat} {left : Bytes}
    (h : readGroups limit bytes = some (n, left)) : left.length < bytes.length := by
  fun_induction readGroups limit bytes generalizing n left with
  | case1 => simp at h
  | case2 => simp at h
  | case3 => simp at h
  | case4 => simp_all
  | case5 limit b rest hb ih =>
    obtain ⟨⟨m, left'⟩, hm, heq⟩ := Option.map_eq_some_iff.1 h
    have := ih hm
    simp only [Prod.mk.injEq] at heq
    rw [← heq.2, List.length_cons]
    omega

theorem read?_lt {bytes : Bytes} {n : Nat} {left : Bytes} (h : read? bytes = some (n, left)) :
    left.length < bytes.length :=
  readGroups_lt h

end RecordRelay.Protobuf.Varint
