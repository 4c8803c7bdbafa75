import RecordRelay.Proofs.Protobuf.Written

/-!
# Messages as lists of fields

What may stand in a message is said here without a reader: a message is a list of **fields**, each a
key and a value, and the value of a group is a list of fields again. Keys, lengths and numbers stand
in any spelling that a varint may have, shortest or not (`Varint.Spells`), and a key that ends a
group has a spelling of its own. A `Field` carries the facts that make it one, so every list of
fields is a message.

A reader that does not know a field **passes it and nothing more**, whatever follows
(`passValue_value`). It asks one thing of the field: that its groups are not nested deeper than the
reader goes. The induction is on the depth that is left, which falls with every group; behind the
key that opens one, another induction goes along the fields in it.
-/

namespace RecordRelay.Protobuf

/-! ## Varints in any spelling -/

namespace Varint

/-- The number in octets of seven bits, the lowest first. -/
def number : Bytes → Nat
  | [] => 0
  | b :: octets => b.toNat % 128 + 128 * number octets

/-- Whether octets **spell a number**, in as many octets as they like up to ten. -/
structure Spells (octets : Bytes) (n : Nat) : Prop where
  /-- All octets but the last say that more follow. -/
  continued : ∀ b ∈ octets.dropLast, 128 ≤ b
  /-- The last octet says that it is the last. -/
  closed : ∃ b ∈ octets.getLast?, b < 128
  /-- The number is the one that the octets hold. -/
  number_eq : number octets = n
  /-- There are no more than ten of them. -/
  length_le : octets.length ≤ 10
  /-- The number has 64 bits. -/
  lt : n < 2 ^ 64

instance (octets : Bytes) (n : Nat) : Decidable (Spells octets n) :=
  decidable_of_iff (octets.dropLast.all (128 ≤ ·) = true ∧ octets.getLast?.any (· < 128) = true
      ∧ number octets = n ∧ octets.length ≤ 10 ∧ n < 2 ^ 64) (by
    rw [List.all_eq_true, Option.any_eq_true]
    simp only [decide_eq_true_eq]
    exact ⟨fun ⟨h₁, h₂, h₃, h₄, h₅⟩ => ⟨h₁, h₂, h₃, h₄, h₅⟩, fun ⟨h₁, h₂, h₃, h₄, h₅⟩ =>
      ⟨h₁, h₂, h₃, h₄, h₅⟩⟩)

/-- Octets that end as a varint does are read as their number, if the octets that may be read can
hold it. -/
theorem readGroups_append {octets : Bytes} {spare : Nat}
    (hcontinued : ∀ b ∈ octets.dropLast, 128 ≤ b) (hclosed : ∃ b ∈ octets.getLast?, b < 128)
    (hlength : octets.length ≤ spare + 1) (hlt : number octets < 2 * 128 ^ spare) (rest : Bytes) :
    readGroups (spare + 1) (octets ++ rest) = some (number octets, rest) := by
  induction octets generalizing spare with
  | nil => obtain ⟨b, hb, -⟩ := hclosed; cases hb
  | cons b octets ih =>
    cases octets with
    | nil =>
      have hb : b < 128 := by simpa using hclosed
      have hsmall := UInt8.lt_iff_toNat_lt.mp hb
      have hnumber : number [b] = b.toNat := Nat.mod_eq_of_lt hsmall
      rw [hnumber] at hlt ⊢
      have hroom : ¬ (spare = 0 ∧ 2 ≤ b) := by
        rintro ⟨rfl, htwo⟩
        exact absurd (UInt8.le_iff_toNat_le.mp htwo) (Nat.not_le.mpr hlt)
      rw [List.singleton_append, readGroups, if_pos hb, if_neg hroom]
    | cons c octets =>
      have hmore : ¬ b < 128 := UInt8.not_lt.mpr (hcontinued b List.mem_cons_self)
      -- an octet that says more follow leaves room for the next
      cases spare with
      | zero => exact absurd hlength (by simp)
      | succ spare =>
        have hrest : number (c :: octets) < 2 * 128 ^ spare := by
          rw [number, pow_succ] at hlt
          omega
        have hread := ih (fun x hx => hcontinued x (List.mem_cons_of_mem _ hx))
          (by simpa using hclosed) (by simpa using hlength) hrest
        rw [List.cons_append, readGroups, if_neg hmore, hread]
        rfl

/-- **Every spelling reads** as its number, whatever follows. -/
theorem Spells.read? {octets : Bytes} {n : Nat} (h : Spells octets n) (rest : Bytes) :
    read? (octets ++ rest) = some (n, rest) := by
  have hlt : number octets < 2 * 128 ^ 9 := by
    have := h.lt
    rw [h.number_eq]
    omega
  have hread := readGroups_append h.continued h.closed h.length_le hlt rest
  rwa [h.number_eq] at hread

end Varint

/-! ## Fields -/

/-- A **key in some spelling**, for a value that is laid out as `wire` says. -/
structure SpelledKey (wire : WireType) where
  /-- The number of the field. -/
  number : Nat
  /-- The octets of the key. -/
  octets : Bytes
  /-- Numbers begin with one. -/
  pos : 0 < number
  /-- They have 29 bits. -/
  lt : number < 2 ^ 29
  /-- The octets spell the number and the code of the wire type. -/
  spells : Varint.Spells octets (number * 8 + wire.code)

/-- **Every spelling of a key reads** as that key. -/
theorem SpelledKey.readKey_append {wire : WireType} (k : SpelledKey wire) (rest : Bytes) :
    readKey (k.octets ++ rest) = .ok (⟨k.number, wire⟩, rest) :=
  readKey_of_read? k.pos k.lt (k.spells.read? rest)

/-- A **field** as it may stand in a message. -/
inductive Field where
  /-- A number. -/
  | varint (key : SpelledKey .varint) (octets : Bytes) (n : Nat) (spells : Varint.Spells octets n)
  /-- Eight octets. -/
  | sixtyFourBit (key : SpelledKey .sixtyFourBit) (octets : Bytes) (length_eq : octets.length = 8)
  /-- A number of octets, behind that number. -/
  | lengthDelimited (key : SpelledKey .lengthDelimited) (length content : Bytes)
      (counts : Varint.Spells length content.length)
  /-- Fields up to a key that ends the group. -/
  | group (key : SpelledKey .startGroup) (fields : List Field) (close : SpelledKey .endGroup)
      (closes : close.number = key.number)
  /-- Four octets. -/
  | thirtyTwoBit (key : SpelledKey .thirtyTwoBit) (octets : Bytes) (length_eq : octets.length = 4)

namespace Field

/-- The key of a field. -/
def key : Field → Key
  | varint k _ _ _ => ⟨k.number, .varint⟩
  | sixtyFourBit k _ _ => ⟨k.number, .sixtyFourBit⟩
  | lengthDelimited k _ _ _ => ⟨k.number, .lengthDelimited⟩
  | group k _ _ _ => ⟨k.number, .startGroup⟩
  | thirtyTwoBit k _ _ => ⟨k.number, .thirtyTwoBit⟩

/-- The octets of the key of a field. -/
def keyOctets : Field → Bytes
  | varint k _ _ _ => k.octets
  | sixtyFourBit k _ _ => k.octets
  | lengthDelimited k _ _ _ => k.octets
  | group k _ _ _ => k.octets
  | thirtyTwoBit k _ _ => k.octets

/-- The text that a field holds, if its value has a length and is well-formed UTF-8. -/
def text? : Field → Option String
  | lengthDelimited _ _ content _ => Bytes.text? content
  | _ => none

/-- What is wrong with a field that should hold a text and does not. -/
def notTextFault : Field → Fault
  | lengthDelimited _ _ _ _ => .notText
  | f => .wrongWireType f.key.wire .lengthDelimited

end Field

mutual

/-- The octets behind the key of a field. -/
def Field.value : Field → Bytes
  | .varint _ octets _ _ => octets
  | .sixtyFourBit _ octets _ => octets
  | .lengthDelimited _ length content _ => length ++ content
  | .group _ fields close _ => message fields ++ close.octets
  | .thirtyTwoBit _ octets _ => octets

/-- The octets of fields, one after the other: a **message**. -/
def message : List Field → Bytes
  | [] => []
  | f :: fields => f.keyOctets ++ (f.value ++ message fields)

end

mutual

/-- How many **levels** a field takes: one for itself and those in it, if it is a group. -/
def Field.levels : Field → Nat
  | .varint _ _ _ _ => 1
  | .sixtyFourBit _ _ _ => 1
  | .lengthDelimited _ _ _ _ => 1
  | .group _ fields _ _ => levels fields + 1
  | .thirtyTwoBit _ _ _ => 1

/-- How many levels fields take: as many as the one that takes most. -/
def levels : List Field → Nat
  | [] => 0
  | f :: fields => max f.levels (levels fields)

end

/-- Fields take no more levels than a bound exactly when none of them does. -/
theorem levels_le_iff {fields : List Field} {depth : Nat} :
    levels fields ≤ depth ↔ ∀ f ∈ fields, f.levels ≤ depth := by
  induction fields with
  | nil => simp [levels]
  | cons f fields ih => rw [levels, Nat.max_le, ih, List.forall_mem_cons]

/-! ## Passing a field -/

/-- **The key of a field reads**, and its value is left. -/
theorem Field.readKey_keyOctets (f : Field) (rest : Bytes) :
    readKey (f.keyOctets ++ rest) = .ok (f.key, rest) := by
  cases f <;> exact SpelledKey.readKey_append _ rest

/-- A field does not end a group. -/
theorem Field.wire_ne_endGroup (f : Field) : f.key.wire ≠ .endGroup := by
  cases f <;> exact fun h => nomatch h

/-- Octets in front are passed. -/
theorem pass_append {n : Nat} {octets bytes rest : Bytes} (hn : n = octets.length)
    (hbytes : bytes = octets ++ rest) (hle : rest.length ≤ bytes.length) :
    pass n bytes = .ok ⟨rest, hle⟩ := by
  subst hn hbytes
  unfold pass
  split
  · next h =>
    rw [take?_append] at h
    cases h
  · next h =>
    rw [take?_append] at h
    cases h
    rfl

/-- A number in front is passed, and with it the octets that it counts. -/
theorem passVarint_append {length : Nat → Nat} {spelled octets bytes rest : Bytes} {n : Nat}
    (h : Varint.Spells spelled n) (hlength : length n = octets.length)
    (hbytes : bytes = spelled ++ (octets ++ rest)) (hle : rest.length ≤ bytes.length) :
    passVarint length bytes = .ok ⟨rest, hle⟩ := by
  have hread := h.read? (octets ++ rest)
  rw [← hbytes] at hread
  unfold passVarint
  split
  · next hnone =>
    rw [hread] at hnone
    cases hnone
  · next hsome =>
    rw [hread] at hsome
    cases hsome
    rw [pass_append hlength rfl (by simp)]

/-- A group is passed **up to and with its end**, if the values of its fields are. -/
theorem passGroup_message {start bytes rest : Bytes}
    {value : Key → (bytes : Bytes) → Except Fault (Left bytes)} {fields : List Field}
    (hvalue : ∀ f ∈ fields, ∀ rest hle, value f.key (f.value ++ rest) = .ok ⟨rest, hle⟩)
    (close : SpelledKey .endGroup) (hbytes : bytes = message fields ++ (close.octets ++ rest))
    (hle : bytes.length ≤ start.length) (hrest : rest.length ≤ start.length) :
    passGroup value close.number bytes hle = .ok ⟨rest, hrest⟩ := by
  induction fields generalizing bytes with
  | nil =>
    have hclose := close.readKey_append rest
    rw [message, List.nil_append] at hbytes
    rw [← hbytes] at hclose
    unfold passGroup
    split
    · next h =>
      rw [hclose] at h
      cases h
    · next h =>
      rw [hclose] at h
      cases h
      rw [if_pos rfl, if_pos rfl]
  | cons f fields ih =>
    have hkey := f.readKey_keyOctets (f.value ++ (message fields ++ (close.octets ++ rest)))
    rw [message, List.append_assoc, List.append_assoc] at hbytes
    rw [← hbytes] at hkey
    unfold passGroup
    split
    · next h =>
      rw [hkey] at h
      cases h
    · next h =>
      rw [hkey] at h
      cases h
      rw [if_neg f.wire_ne_endGroup, hvalue f List.mem_cons_self _ (by simp)]
      exact ih (fun g hg => hvalue g (List.mem_cons_of_mem _ hg)) rfl _

/-- **The value of a field is passed and nothing more**, if the reader goes as deep as the groups
in it are nested. -/
theorem passValue_value {depth : Nat} {f : Field} (h : f.levels ≤ depth) (rest : Bytes)
    (hle : rest.length ≤ (f.value ++ rest).length) :
    passValue depth f.key (f.value ++ rest) = .ok ⟨rest, hle⟩ := by
  induction depth generalizing f rest with
  | zero => cases f <;> simp [Field.levels] at h
  | succ depth ih =>
    cases f with
    | varint key octets n spells =>
      have hnothing : (fun _ : Nat => 0) n = ([] : Bytes).length := rfl
      have hbytes : octets ++ rest = octets ++ (([] : Bytes) ++ rest) := rfl
      exact passVarint_append spells hnothing hbytes hle
    | sixtyFourBit key octets length_eq => exact pass_append length_eq.symm rfl hle
    | lengthDelimited key length content counts =>
      exact passVarint_append counts rfl (List.append_assoc ..) hle
    | group key fields close closes =>
      have hfields := levels_le_iff.mp (Nat.le_of_succ_le_succ h)
      have hpass := passGroup_message (fun g hg rest => ih (hfields g hg) rest) close
        (List.append_assoc (message fields) close.octets rest) (Nat.le_refl _) hle
      rw [closes] at hpass
      exact hpass
    | thirtyTwoBit key octets length_eq => exact pass_append length_eq.symm rfl hle

/-- Where a text should stand, a field **gives its text** or the fault is its own. -/
theorem readText_value (f : Field) (rest : Bytes) :
    readText f.key.wire (f.value ++ rest)
      = match f.text? with
        | some s => .ok (s, rest)
        | none => .error f.notTextFault := by
  cases f with
  | lengthDelimited key length content counts =>
    unfold readText
    rw [Field.value, List.append_assoc, if_neg (by simp [Field.key]), counts.read?]
    dsimp only
    rw [take?_append]
    dsimp only [Field.text?]
    cases Bytes.text? content <;> rfl
  | varint | sixtyFourBit | group | thirtyTwoBit => rfl

/-! ## Nothing else is passed -/

/-- What is read as a number ends as a varint does. The bound says how much the octets can hold. -/
theorem Varint.exists_octets_of_readGroups {limit n : Nat} {bytes left : Bytes}
    (h : readGroups limit bytes = some (n, left)) :
    ∃ octets, bytes = octets ++ left ∧ (∀ b ∈ octets.dropLast, 128 ≤ b)
      ∧ (∃ b ∈ octets.getLast?, b < 128) ∧ number octets = n ∧ octets.length ≤ limit
      ∧ 64 * (n + 1) ≤ 128 ^ limit := by
  fun_induction readGroups limit bytes generalizing n left with
  | case1 | case2 | case3 => cases h
  | case4 limit b rest hb hroom =>
    cases h
    have hsmall := UInt8.lt_iff_toNat_lt.mp hb
    refine ⟨[b], rfl, by simp, ⟨b, rfl, hb⟩, Nat.mod_eq_of_lt hsmall, by simp, ?_⟩
    obtain rfl | hlimit := Nat.eq_zero_or_pos limit
    · have htwo := UInt8.lt_iff_toNat_lt.mp (UInt8.not_le.mp fun h => hroom ⟨rfl, h⟩)
      change b.toNat < 2 at htwo
      omega
    · have hpow : 128 ^ 1 ≤ 128 ^ limit := Nat.pow_le_pow_right (by decide) hlimit
      change b.toNat < 128 at hsmall
      rw [pow_succ']
      omega
  | case5 limit b rest hb ih =>
    obtain ⟨⟨m, rest'⟩, hm, heq⟩ := Option.map_eq_some_iff.mp h
    cases heq
    obtain ⟨octets, rfl, hcontinued, hclosed, hnumber, hlength, hbound⟩ := ih hm
    cases octets with
    | nil => obtain ⟨c, hc, -⟩ := hclosed; cases hc
    | cons c octets =>
      refine ⟨b :: c :: octets, rfl, ?_, by simpa using hclosed, ?_, ?_, ?_⟩
      · rintro x (_ | ⟨_, hx⟩)
        · exact UInt8.not_lt.mp hb
        · exact hcontinued x hx
      · rw [number, hnumber]
      · exact Nat.succ_le_succ hlength
      · rw [pow_succ']
        omega

/-- **What is read as a number spells it.** -/
theorem Varint.exists_spells {bytes left : Bytes} {n : Nat} (h : read? bytes = some (n, left)) :
    ∃ octets, bytes = octets ++ left ∧ Spells octets n := by
  obtain ⟨octets, hbytes, hcontinued, hclosed, hnumber, hlength, hbound⟩ :=
    exists_octets_of_readGroups h
  have hlt : n < 2 ^ 64 := by
    have hpow : 128 ^ 10 = 64 * 2 ^ 64 := by norm_num
    rw [hpow] at hbound
    exact Nat.le_of_mul_le_mul_left hbound (by decide)
  exact ⟨octets, hbytes, hcontinued, hclosed, hnumber, hlength, hlt⟩

/-- **What is read as a key is one**, in some spelling. -/
theorem exists_spelledKey {key : Key} {bytes left : Bytes} (h : readKey bytes = .ok (key, left)) :
    ∃ (wire : WireType) (k : SpelledKey wire),
      key = ⟨k.number, wire⟩ ∧ bytes = k.octets ++ left := by
  obtain ⟨hpos, hlt, hread⟩ := read?_of_readKey h
  obtain ⟨octets, hbytes, hspells⟩ := Varint.exists_spells hread
  exact ⟨key.wire, ⟨key.number, octets, hpos, hlt, hspells⟩, rfl, hbytes⟩

/-- What is passed is as many octets as asked for. -/
theorem exists_octets_of_pass {n : Nat} {bytes : Bytes} {rest : Left bytes}
    (h : pass n bytes = .ok rest) : ∃ octets, octets.length = n ∧ bytes = octets ++ rest.1 := by
  unfold pass at h
  split at h
  · cases h
  · next htake =>
    cases h
    rw [take?_eq] at htake
    split at htake
    · next hle =>
      cases htake
      exact ⟨bytes.take n, List.length_take_of_le hle, (List.take_append_drop n bytes).symm⟩
    · cases htake

/-- What is passed behind a number is as many octets as it counts. -/
theorem exists_spells_of_passVarint {length : Nat → Nat} {bytes : Bytes} {rest : Left bytes}
    (h : passVarint length bytes = .ok rest) :
    ∃ spelled octets n, Varint.Spells spelled n ∧ octets.length = length n
      ∧ bytes = spelled ++ (octets ++ rest.1) := by
  unfold passVarint at h
  split at h
  · cases h
  · next n left hread =>
    split at h
    · cases h
    · next inner hpass =>
      cases h
      obtain ⟨spelled, hbytes, hspells⟩ := Varint.exists_spells hread
      obtain ⟨octets, hlength, hleft⟩ := exists_octets_of_pass hpass
      exact ⟨spelled, octets, n, hspells, hlength,
        hbytes.trans (congrArg (spelled ++ ·) hleft)⟩

/-- Whether `value` passes nothing but values of fields that take no more than `depth` levels. -/
def PassesFields (depth : Nat) (value : Key → (bytes : Bytes) → Except Fault (Left bytes)) : Prop :=
  ∀ (wire : WireType) (k : SpelledKey wire) (bytes : Bytes) (rest : Left bytes),
    value ⟨k.number, wire⟩ bytes = .ok rest →
    ∃ f : Field, f.key = ⟨k.number, wire⟩ ∧ f.keyOctets = k.octets ∧ f.levels ≤ depth
      ∧ bytes = f.value ++ rest.1

/-- What is passed as a group is a list of fields and a key that ends it. -/
theorem exists_message_of_passGroup {depth number : Nat} {start bytes : Bytes}
    {value : Key → (bytes : Bytes) → Except Fault (Left bytes)} (hvalue : PassesFields depth value)
    {le : bytes.length ≤ start.length} {rest : Left start}
    (h : passGroup value number bytes le = .ok rest) :
    ∃ (fields : List Field) (close : SpelledKey .endGroup), close.number = number
      ∧ levels fields ≤ depth ∧ bytes = message fields ++ (close.octets ++ rest.1) := by
  fun_induction passGroup value number bytes le with
  | case1 | case3 | case4 => cases h
  | case2 bytes le key left hkey _ hend hnumber =>
    cases h
    obtain ⟨wire, close, rfl, hbytes⟩ := exists_spelledKey hkey
    obtain rfl : wire = .endGroup := hend
    exact ⟨[], close, hnumber, Nat.zero_le _, hbytes⟩
  | case5 bytes le key left hkey _ _ inner hinner _ ih =>
    obtain ⟨wire, k, rfl, hbytes⟩ := exists_spelledKey hkey
    obtain ⟨f, -, hoctets, hlevels, hleft⟩ := hvalue wire k left inner hinner
    obtain ⟨fields, close, hclose, hfields, hinside⟩ := ih h
    refine ⟨f :: fields, close, hclose, Nat.max_le.mpr ⟨hlevels, hfields⟩, ?_⟩
    calc bytes = k.octets ++ left := hbytes
      _ = k.octets ++ (f.value ++ (message fields ++ (close.octets ++ rest.1))) := by
        rw [← hinside, ← hleft]
      _ = message (f :: fields) ++ (close.octets ++ rest.1) := by
        rw [message, hoctets]
        simp only [List.append_assoc]

/-- **What is passed is the value of a field**, nested no deeper than the reader goes. -/
theorem passesFields_passValue (depth : Nat) : PassesFields depth (passValue depth) := by
  induction depth with
  | zero => exact fun wire k bytes rest h => nomatch h
  | succ depth ih =>
    intro wire k bytes rest h
    cases wire with
    | varint =>
      obtain ⟨spelled, octets, n, hspells, hlength, hbytes⟩ := exists_spells_of_passVarint h
      rw [List.eq_nil_of_length_eq_zero hlength, List.nil_append] at hbytes
      exact ⟨.varint k spelled n hspells, rfl, rfl, Nat.le_add_left .., hbytes⟩
    | sixtyFourBit =>
      obtain ⟨octets, hlength, hbytes⟩ := exists_octets_of_pass h
      exact ⟨.sixtyFourBit k octets hlength, rfl, rfl, Nat.le_add_left .., hbytes⟩
    | lengthDelimited =>
      obtain ⟨spelled, octets, n, hspells, hlength, hbytes⟩ := exists_spells_of_passVarint h
      obtain rfl : octets.length = n := hlength
      exact ⟨.lengthDelimited k spelled octets hspells, rfl, rfl, Nat.le_add_left ..,
        hbytes.trans (List.append_assoc ..).symm⟩
    | startGroup =>
      obtain ⟨fields, close, hclose, hfields, hbytes⟩ := exists_message_of_passGroup ih h
      exact ⟨.group k fields close hclose, rfl, rfl, Nat.succ_le_succ hfields,
        hbytes.trans (List.append_assoc ..).symm⟩
    | endGroup => cases h
    | thirtyTwoBit =>
      obtain ⟨octets, hlength, hbytes⟩ := exists_octets_of_pass h
      exact ⟨.thirtyTwoBit k octets hlength, rfl, rfl, Nat.le_add_left .., hbytes⟩

/-- **What is read as a text** is a field that holds it. -/
theorem exists_field_of_readText {wire : WireType} (k : SpelledKey wire) {bytes left : Bytes}
    {s : String} (h : readText wire bytes = .ok (s, left)) :
    ∃ f : Field, f.key = ⟨k.number, wire⟩ ∧ f.keyOctets = k.octets ∧ f.levels = 1
      ∧ f.text? = some s ∧ bytes = f.value ++ left := by
  unfold readText at h
  split at h
  · cases h
  · next hwire =>
    obtain rfl : wire = .lengthDelimited := Classical.not_not.mp hwire
    split at h
    · cases h
    · next n rest hread =>
      obtain ⟨spelled, rfl, hspells⟩ := Varint.exists_spells hread
      split at h
      · cases h
      · next content left' htake =>
        split at h
        · cases h
        · next t htext =>
          cases h
          rw [take?_eq] at htake
          split at htake
          · next hle =>
            cases htake
            have hcounts : Varint.Spells spelled (rest.take n).length := by
              rwa [List.length_take_of_le hle]
            refine ⟨.lengthDelimited k spelled (rest.take n) hcounts, rfl, rfl, rfl, htext, ?_⟩
            rw [Field.value, List.append_assoc, List.take_append_drop]
          · cases htake

end RecordRelay.Protobuf
