import RecordRelay.Json.Record
import RecordRelay.Proofs.Fallible
import RecordRelay.Proofs.Octets

/-!
# What a reader takes

Whatever a reader accepts, it has taken octet by octet from the front of the text, and each of them
was **allowed**: a space between the parts of the text, or an octet that is no control. `Took` says
this of two cursors. Every reader is shown to obey it, those that only pass a value included, and so
a text that is read to its end holds allowed octets only.

Most of what a record reads is decided by its fields, so the readers of records get a principle
instead: any relation between the record and the cursor before and after that contains `Took`, that
composes, and that every field obeys, holds from the beginning of the text to its end
(`along_read?`).
-/

namespace RecordRelay

namespace Json

variable {c d e : Cursor} {b : UInt8}

/-! ## Going on in a text -/

/-- Whether an octet is **allowed** in a text. -/
def isAllowed (b : UInt8) : Bool := isSpace b || 0x20 ≤ b

/-- An octet that is no control is allowed. -/
theorem isAllowed_of_le (h : 0x20 ≤ b) : isAllowed b = true := by
  rw [isAllowed, decide_eq_true h, Bool.or_true]

/-- From one cursor to another **only allowed octets were taken**. -/
def Took (c d : Cursor) : Prop :=
  ∃ taken, c.rest = taken ++ d.rest ∧ ∀ b ∈ taken, isAllowed b = true

/-- Nothing was taken. -/
theorem Took.refl (c : Cursor) : Took c c := ⟨[], rfl, fun _ h => nomatch h⟩

/-- What was taken on two ways was taken on both together. -/
theorem Took.trans (h : Took c d) (h' : Took d e) : Took c e := by
  obtain ⟨taken, hrest, hallowed⟩ := h
  obtain ⟨taken', hrest', hallowed'⟩ := h'
  refine ⟨taken ++ taken', by rw [hrest, hrest', List.append_assoc], ?_⟩
  exact List.forall_mem_append.mpr ⟨hallowed, hallowed'⟩

/-- No octets are given back. -/
theorem Took.length_le (h : Took c d) : d.rest.length ≤ c.rest.length := by
  obtain ⟨taken, hrest, -⟩ := h
  rw [hrest, List.length_append]
  exact Nat.le_add_left ..

/-- One allowed octet was taken. -/
theorem took_next (h : c.peek? = some b) (hb : isAllowed b = true) : Took c c.next := by
  obtain ⟨octets, position⟩ := c
  cases octets with
  | nil => cases h
  | cons a octets =>
    cases h
    exact ⟨[b], rfl, fun x hx => by rwa [List.mem_singleton.mp hx]⟩

/-- One octet was taken that was looked for. -/
theorem took_next_of_beq {w : UInt8} (h : c.peek? = some b) (hb : (b == w) = true)
    (hw : isAllowed w = true) : Took c c.next :=
  took_next h (by rwa [beq_iff_eq.mp hb])

/-- Octets that have an allowed property were taken. -/
theorem took_skipWhile {p : UInt8 → Bool} (hp : ∀ b, p b = true → isAllowed b = true)
    (octets : Bytes) (position : Position) :
    Took ⟨octets, position⟩ (Cursor.skipWhile p octets position) := by
  induction octets generalizing position with
  | nil => exact Took.refl _
  | cons b octets ih =>
    rw [Cursor.skipWhile]
    split
    · next hb =>
      exact (took_next (c := ⟨b :: octets, position⟩) rfl (hp b hb)).trans (ih _)
    · exact Took.refl _

/-- Spaces are allowed. -/
theorem took_spaces (c : Cursor) : Took c c.spaces :=
  took_skipWhile (fun b hb => by rw [isAllowed, hb, Bool.true_or]) c.rest c.position

/-- A digit is allowed. -/
theorem isAllowed_of_isDigit (h : isDigit b = true) : isAllowed b = true := by
  simp only [isDigit, Bool.and_eq_true, decide_eq_true_eq] at h
  exact isAllowed_of_le (UInt8.le_trans (by decide) h.1)

/-- Digits are allowed. -/
theorem took_digits (c : Cursor) : Took c c.digits :=
  took_skipWhile (fun _ hb => isAllowed_of_isDigit hb) c.rest c.position

/-- An octet that is looked for is taken if it is there. -/
theorem took_of_nextIs {p : UInt8 → Bool} (hp : ∀ b, p b = true → isAllowed b = true)
    (h : c.nextIs p = true) : Took c c.next := by
  unfold Cursor.nextIs at h
  split at h
  · next b hb => exact took_next hb (hp b h)
  · cases h

/-- An octet that may be there is taken or not. -/
theorem took_nextIf {p : UInt8 → Bool} (hp : ∀ b, p b = true → isAllowed b = true) (c : Cursor) :
    Took c (c.nextIf p) := by
  unfold Cursor.nextIf
  split
  · next h => exact took_of_nextIs hp h
  · exact Took.refl c

/-! ## Strings -/

/-- A hexadecimal digit is allowed. -/
theorem isAllowed_of_hexValue? {n : Nat} (h : hexValue? b = some n) : isAllowed b = true := by
  unfold hexValue? at h
  split at h
  · next hb => exact isAllowed_of_le (UInt8.le_trans (by decide) hb.1)
  · split at h
    · next hb => exact isAllowed_of_le (UInt8.le_trans (by decide) hb.1)
    · split at h
      · next hb => exact isAllowed_of_le (UInt8.le_trans (by decide) hb.1)
      · cases h

/-- The letter of an escape is allowed. -/
theorem isAllowed_of_escape? {value : UInt8} (h : escape? b = some value) : isAllowed b = true := by
  unfold escape? at h
  split at h
  · next hb =>
    simp only [Bool.or_eq_true, beq_iff_eq] at hb
    obtain (rfl | rfl) | rfl := hb <;> rfl
  · iterate 5
      split at h
      · next hb =>
        rw [beq_iff_eq.mp hb]
        rfl
    cases h

/-- Four digits are taken for a unit. -/
theorem took_readUnit {r : Read Nat c} (h : readUnit c = .ok r) :
    Took c r.left ∧ r.left.rest.length + 4 ≤ c.rest.length := by
  unfold readUnit at h
  split at h
  · next x₁ x₂ x₃ x₄ rest hrest =>
    split at h
    · next unit hunit =>
      cases h
      simp only [unit?, Option.bind_eq_bind, Option.bind_eq_some_iff] at hunit
      obtain ⟨n₁, h₁, n₂, h₂, n₃, h₃, n₄, h₄, -⟩ := hunit
      refine ⟨⟨[x₁, x₂, x₃, x₄], hrest, ?_⟩, by simp [hrest]⟩
      simp only [List.forall_mem_cons, isAllowed_of_hexValue? h₁, isAllowed_of_hexValue? h₂,
        isAllowed_of_hexValue? h₃, isAllowed_of_hexValue? h₄, List.not_mem_nil, false_implies,
        implies_true, and_self]
    · cases h
  · cases h

/-- The octet that a pair needs is taken. -/
theorem took_expectInPair {r : Read Unit c} (hb : isAllowed b = true)
    (h : expectInPair b c = .ok r) : Took c r.left := by
  unfold expectInPair at h
  split at h
  · cases h
  · next found hfound =>
    split at h
    · next heq =>
      cases h
      exact took_next_of_beq hfound heq hb
    · cases h

/-- A code point has at most four octets. -/
theorem length_codePoint_le (n : Nat) : (codePoint n).length ≤ 4 := by
  rw [codePoint, String.length_utf8EncodeChar]
  exact Char.utf8Size_le_four _

/-- The rest of a pair takes more octets than the pair stands for. -/
theorem took_readPair {high : Nat} {r : Read Bytes c} (h : readPair high c = .ok r) :
    Took c r.left ∧ r.value.length + r.left.rest.length ≤ c.rest.length := by
  unfold readPair at h
  obtain ⟨backslash, hbackslash, h⟩ := exists_of_bind_eq_ok h
  obtain ⟨letter, hletter, h⟩ := exists_of_bind_eq_ok h
  obtain ⟨low, hlow, h⟩ := exists_of_bind_eq_ok h
  have htook := (took_expectInPair rfl hbackslash).trans (took_expectInPair rfl hletter)
  obtain ⟨htaken, hlength⟩ := took_readUnit hlow
  split at h
  · have hle := htook.length_le
    dsimp only at h
    generalize (high - 0xD800) * 0x400 + (low.value - 0xDC00) + 0x10000 = n at h
    obtain rfl := Except.ok.inj h
    refine ⟨htook.trans htaken, Nat.le_trans (Nat.add_le_add_right (length_codePoint_le n) _) ?_⟩
    show 4 + low.left.rest.length ≤ c.rest.length
    omega
  · cases h

/-- An escape takes at least as many octets as it stands for. -/
theorem took_readEscape {r : Read Bytes c} (h : readEscape c = .ok r) :
    Took c r.left ∧ r.value.length + r.left.rest.length ≤ c.rest.length := by
  unfold readEscape at h
  split at h
  · cases h
  · next b hb =>
    have hnext := Cursor.next_lt hb
    split at h
    · next hu =>
      have htook := took_next_of_beq hb hu rfl
      obtain ⟨unit, hunit, h⟩ := exists_of_bind_eq_ok h
      obtain ⟨htaken, hlength⟩ := took_readUnit hunit
      split at h
      · cases h
      · split at h
        · obtain ⟨pair, hpair, h⟩ := exists_of_bind_eq_ok h
          obtain rfl := Except.ok.inj h
          obtain ⟨hrest, hle⟩ := took_readPair hpair
          refine ⟨(htook.trans htaken).trans hrest, ?_⟩
          show pair.value.length + pair.left.rest.length ≤ c.rest.length
          omega
        · obtain rfl := Except.ok.inj h
          refine ⟨htook.trans htaken,
            Nat.le_trans (Nat.add_le_add_right (length_codePoint_le _) _) ?_⟩
          show 4 + unit.left.rest.length ≤ c.rest.length
          omega
    · split at h
      · next value hvalue =>
        cases h
        refine ⟨took_next hb (isAllowed_of_escape? hvalue), ?_⟩
        show [value].length + c.next.rest.length ≤ c.rest.length
        rw [List.length_singleton]
        omega
      · cases h

/-- The contents of a string take at least as many octets as they stand for. -/
theorem took_readOctets {start : Cursor} {reversed : Bytes} {le : c.rest.length ≤ start.rest.length}
    {r : Read Bytes start} (h : readOctets reversed c le = .ok r) :
    Took c r.left ∧ r.value.length + r.left.rest.length ≤ reversed.length + c.rest.length := by
  fun_induction readOctets reversed c le with
  | case1 => cases h
  | case2 reversed c le b hb lt hquote =>
    cases h
    refine ⟨took_next_of_beq hb hquote rfl, ?_⟩
    show reversed.reverse.length + c.next.rest.length ≤ _
    rw [List.length_reverse]
    omega
  | case3 => cases h
  | case4 reversed c le b hb lt _ hbackslash escape hescape le' ih =>
    obtain ⟨htaken, hlength⟩ := took_readEscape hescape
    obtain ⟨hrest, hle⟩ := ih h
    have htook := took_next_of_beq hb hbackslash rfl
    refine ⟨(htook.trans htaken).trans hrest, ?_⟩
    rw [List.length_append, List.length_reverse] at hle
    omega
  | case5 => cases h
  | case6 reversed c le b hb lt _ _ hcontrol ih =>
    obtain ⟨hrest, hle⟩ := ih h
    refine ⟨(took_next hb (isAllowed_of_le (UInt8.not_lt.mp hcontrol))).trans hrest, ?_⟩
    rw [List.length_cons] at hle
    omega

/-- A string takes at least as many octets as it has. -/
theorem took_readContents {r : Read String c} (h : readContents c = .ok r) :
    Took c r.left ∧ (Bytes.ofString r.value).length + r.left.rest.length ≤ c.rest.length := by
  unfold readContents at h
  obtain ⟨octets, hoctets, h⟩ := exists_of_bind_eq_ok h
  obtain ⟨htook, hle⟩ := took_readOctets hoctets
  split at h
  · next s hs =>
    obtain rfl := Except.ok.inj h
    rw [← Bytes.ofString_of_text? hs, List.length_nil, Nat.zero_add] at hle
    exact ⟨htook, hle⟩
  · cases h

/-- So does a string as a value. -/
theorem took_readString {expected : String} {r : Read String c}
    (h : readString expected c = .ok r) :
    Took c r.left ∧ (Bytes.ofString r.value).length + r.left.rest.length ≤ c.rest.length := by
  unfold readString at h
  split at h
  · cases h
  · next b hb =>
    split at h
    · next hquote =>
      obtain ⟨s, hs, h⟩ := exists_of_bind_eq_ok h
      obtain rfl := Except.ok.inj h
      obtain ⟨htook, hle⟩ := took_readContents hs
      have hopen := (took_spaces c).trans (took_next_of_beq hb hquote rfl)
      exact ⟨hopen.trans htook, Nat.le_trans hle hopen.length_le⟩
    · cases h

/-! ## Passing a value -/

/-- An escape is passed. -/
theorem took_skipEscape {r : Read Unit c} (h : skipEscape c = .ok r) : Took c r.left := by
  unfold skipEscape at h
  split at h
  · cases h
  · next b hb =>
    split at h
    · next hu =>
      obtain ⟨unit, hunit, h⟩ := exists_of_bind_eq_ok h
      obtain rfl := Except.ok.inj h
      exact (took_next_of_beq hb hu rfl).trans (took_readUnit hunit).1
    · split at h
      · next hsome =>
        obtain ⟨value, hvalue⟩ := Option.isSome_iff_exists.mp hsome
        cases h
        exact took_next hb (isAllowed_of_escape? hvalue)
      · cases h

/-- A string is passed, and it holds **no control** either. -/
theorem took_skipContents {start : Cursor} {le : c.rest.length ≤ start.rest.length}
    {r : Read Unit start} (h : skipContents c le = .ok r) : Took c r.left := by
  fun_induction skipContents c le with
  | case1 => cases h
  | case2 c le b hb lt hquote =>
    cases h
    exact took_next_of_beq hb hquote rfl
  | case3 => cases h
  | case4 c le b hb lt _ hbackslash escape hescape le' ih =>
    have htook := took_next_of_beq hb hbackslash rfl
    exact (htook.trans (took_skipEscape hescape)).trans (ih h)
  | case5 => cases h
  | case6 c le b hb lt _ _ hcontrol ih =>
    exact (took_next hb (isAllowed_of_le (UInt8.not_lt.mp hcontrol))).trans (ih h)

/-- A word is passed. -/
theorem took_passLiteral {word : Bytes} (hword : word.all isAllowed = true) {r : Read Unit c}
    (h : passLiteral word c = .ok r) : Took c r.left := by
  induction word generalizing c with
  | nil =>
    cases h
    exact Took.refl c
  | cons w word ih =>
    rw [List.all_cons, Bool.and_eq_true] at hword
    unfold passLiteral at h
    split at h
    · cases h
    · next b hb =>
      split at h
      · next heq =>
        split at h
        · next rest hrest =>
          cases h
          have hallowed : isAllowed b = true := by
            rw [beq_iff_eq.mp heq]
            exact hword.1
          exact (took_next hb hallowed).trans (ih hword.2 hrest)
        · cases h
      · cases h

/-- An exponent is passed. -/
theorem took_skipExponent {r : Read Unit c} (hmark : c.nextIs isExponentMark = true)
    (h : skipExponent c = .ok r) : Took c r.left := by
  have hmarks : ∀ b, isExponentMark b = true → isAllowed b = true := by
    intro b hb
    simp only [isExponentMark, Bool.or_eq_true, beq_iff_eq] at hb
    obtain rfl | rfl := hb <;> rfl
  have hsigns : ∀ b : UInt8, (b == 0x2B || b == 0x2D) = true → isAllowed b = true := by
    intro b hb
    simp only [Bool.or_eq_true, beq_iff_eq] at hb
    obtain rfl | rfl := hb <;> rfl
  unfold skipExponent at h
  dsimp only at h
  split at h
  · cases h
    exact ((took_of_nextIs hmarks hmark).trans (took_nextIf hsigns _)).trans (took_digits _)
  · cases h

/-- What may follow the digits of a number is passed. -/
theorem took_skipFinish {r : Read Unit c} (h : skipFinish c = .ok r) : Took c r.left := by
  unfold skipFinish at h
  split at h
  · next hmark => exact took_skipExponent hmark h
  · cases h
    exact Took.refl c

/-- What may follow the whole part of a number is passed. -/
theorem took_skipTail {r : Read Unit c} (h : skipTail c = .ok r) : Took c r.left := by
  unfold skipTail at h
  split at h
  · next hpoint =>
    have hallowed : ∀ b : UInt8, (b == 0x2E) = true → isAllowed b = true := by
      intro b hb
      rw [beq_iff_eq.mp hb]
      rfl
    unfold skipFraction at h
    dsimp only at h
    split at h
    · split at h
      · next rest hrest =>
        cases h
        exact ((took_of_nextIs hallowed hpoint).trans (took_digits _)).trans
          (took_skipFinish hrest)
      · cases h
    · cases h
  · exact took_skipFinish h

/-- A number is passed from its first digit on. -/
theorem took_skipNumber (hb : c.peek? = some b) {r : Read Unit c.next}
    (h : skipNumber b c.next = .ok r) : Took c r.left := by
  unfold skipNumber at h
  split at h
  · next hzero =>
    split at h
    · cases h
    · exact (took_next_of_beq hb hzero rfl).trans (took_skipTail h)
  · split at h
    · next hdigit =>
      split at h
      · next rest hrest =>
        cases h
        exact ((took_next hb (isAllowed_of_isDigit hdigit)).trans (took_digits _)).trans
          (took_skipTail hrest)
      · cases h
    · cases h

/-- A scalar value is passed. -/
theorem took_skipScalar (hb : c.peek? = some b) {r : Read Unit c.next}
    (h : skipScalar b c = .ok r) : Took c r.left := by
  unfold skipScalar at h
  split at h
  · next heq =>
    exact (took_next_of_beq hb heq rfl).trans
      (took_passLiteral (by decide) h)
  split at h
  · next heq =>
    exact (took_next_of_beq hb heq rfl).trans
      (took_passLiteral (by decide) h)
  split at h
  · next heq =>
    exact (took_next_of_beq hb heq rfl).trans
      (took_passLiteral (by decide) h)
  split at h
  · next heq =>
    split at h
    · cases h
    · next digit hdigit =>
      obtain ⟨number, hnumber, h⟩ := exists_of_bind_eq_ok h
      obtain rfl := Except.ok.inj h
      exact (took_next_of_beq hb heq rfl).trans (took_skipNumber hdigit hnumber)
  split at h
  · exact took_skipNumber hb h
  split at h
  · next heq =>
    exact (took_next_of_beq hb heq rfl).trans (took_skipContents h)
  · cases h

/-- The name of a member and its colon are passed. -/
theorem took_skipName {bracket : Bracket} {r : Read Unit c} (h : skipName bracket c = .ok r) :
    Took c r.left := by
  unfold skipName at h
  split at h
  · cases h
    exact Took.refl c
  · dsimp only at h
    split at h
    · cases h
    · next b hb =>
      split at h
      · next hquote =>
        obtain ⟨name, hname, h⟩ := exists_of_bind_eq_ok h
        split at h
        · cases h
        · next b' hb' =>
          split at h
          · next hcolon =>
            obtain rfl := Except.ok.inj h
            have hopen := (took_spaces c).trans (took_next_of_beq hb hquote rfl)
            have hclosed := hopen.trans (took_skipContents hname)
            exact (hclosed.trans (took_spaces _)).trans (took_next_of_beq hb' hcolon rfl)
          · cases h
      · cases h

/-- **A value is passed** with all that it holds, whatever brackets are open. -/
theorem took_skipDue {start : Cursor} {due : Due} {brackets : List Bracket}
    {le : c.rest.length ≤ start.rest.length} {r : Read Unit start}
    (h : skipDue due brackets c le = .ok r) : Took c r.left := by
  have hclosing : ∀ bracket : Bracket, isAllowed bracket.closing = true := by
    intro bracket
    cases bracket <;> rfl
  fun_induction skipDue due brackets c le with
  | case1 | case4 | case8 | case11 | case15 | case17 => cases h
  | case2 c le le' brackets b hb lt hopen ih | case3 c le le' brackets b hb lt _ hopen ih =>
    exact ((took_spaces c).trans (took_next_of_beq hb hopen rfl)).trans (ih h)
  | case5 c le le' brackets b hb lt _ _ scalar hscalar =>
    cases h
    exact (took_spaces c).trans (took_skipScalar hb hscalar)
  | case6 c le le' brackets b hb lt _ _ scalar hscalar _ _ ih =>
    exact ((took_spaces c).trans (took_skipScalar hb hscalar)).trans (ih h)
  | case7 due c le =>
    cases h
    exact took_spaces c
  | case9 c le le' bracket brackets b hb lt hclose
  | case13 c le le' bracket brackets b hb lt hclose =>
    cases h
    exact (took_spaces c).trans (took_next_of_beq hb hclose (hclosing bracket))
  | case10 c le le' bracket brackets b hb lt hclose _ ih
  | case14 c le le' bracket brackets b hb lt hclose _ ih =>
    exact ((took_spaces c).trans (took_next_of_beq hb hclose (hclosing bracket))).trans (ih h)
  | case12 c le le' bracket brackets b hb lt _ name hname _ ih =>
    exact ((took_spaces c).trans (took_skipName hname)).trans (ih h)
  | case16 c le le' bracket brackets b hb lt _ hcomma name hname _ ih =>
    have hitem := (took_spaces c).trans (took_next_of_beq hb hcomma rfl)
    exact (hitem.trans (took_skipName hname)).trans (ih h)

/-! ## Records -/

section Records

variable {σ : Type} {fields : Fields σ}

/-- The end of an array is taken. -/
theorem took_endList {r : Read Unit c} (h : Fields.endList c = .ok r) : Took c r.left := by
  unfold Fields.endList at h
  split at h
  · cases h
  · next b hb =>
    split at h
    · next hclose =>
      cases h
      exact (took_spaces c).trans (took_next_of_beq hb hclose rfl)
    · split at h
      · dsimp only at h
        split at h <;> cases h
      · cases h

/-- What stands before the next value of an array is taken. Where there is none the bracket that
closes the array is left. -/
theorem took_nextItem {first : Bool} {r : Read Bool c} (h : Fields.nextItem first c = .ok r) :
    Took c r.left ∧ (r.value = false → r.left.peek? = some 0x5D) := by
  unfold Fields.nextItem at h
  split at h
  · cases h
  · next b hb =>
    split at h
    · next hclose =>
      cases h
      refine ⟨took_spaces c, fun _ => ?_⟩
      rw [beq_iff_eq.mp hclose] at hb
      exact hb
    split at h
    · cases h
      exact ⟨took_spaces c, fun hfalse => Bool.noConfusion hfalse⟩
    split at h
    · next hcomma =>
      dsimp only at h
      split at h
      · cases h
      · split at h
        · cases h
        · cases h
          refine ⟨?_, fun hfalse => Bool.noConfusion hfalse⟩
          exact ((took_spaces c).trans (took_next_of_beq hb hcomma rfl)).trans (took_spaces _)
    · cases h

/-- The colon behind a name is taken. -/
theorem took_takeColon {r : Read Unit c} (h : Fields.takeColon c = .ok r) : Took c r.left := by
  unfold Fields.takeColon at h
  split at h
  · cases h
  · next b hb =>
    split at h
    · next hcolon =>
      cases h
      exact (took_spaces c).trans (took_next_of_beq hb hcolon rfl)
    · cases h

/-- What stands before the next name of an object is taken, and its quote is left. Where there is no
name the brace that closes the object is left. -/
theorem took_nextName {first : Bool} {r : Read Bool c} (h : Fields.nextName first c = .ok r) :
    Took c r.left ∧ r.left.peek? = some (if r.value then 0x22 else 0x7D) := by
  unfold Fields.nextName at h
  split at h
  · cases h
  · next b hb =>
    split at h
    · next hclose =>
      cases h
      rw [beq_iff_eq.mp hclose] at hb
      exact ⟨took_spaces c, hb⟩
    split at h
    · split at h
      · next hquote =>
        cases h
        rw [beq_iff_eq.mp hquote] at hb
        exact ⟨took_spaces c, hb⟩
      · cases h
    split at h
    · next hcomma =>
      dsimp only at h
      split at h
      · cases h
      · next b' hb' =>
        split at h
        · next hquote =>
          cases h
          rw [beq_iff_eq.mp hquote] at hb'
          exact ⟨((took_spaces c).trans (took_next_of_beq hb hcomma rfl)).trans (took_spaces _),
            hb'⟩
        · split at h <;> cases h
    · cases h

/-- A relation between what was read and where, before and after, **holds along** a text: taking
octets obeys it, reading a field does, and it composes. -/
structure Along (fields : Fields σ) (R : σ → Cursor → σ → Cursor → Prop) : Prop where
  /-- The record stays as it is where octets are only taken. -/
  took : ∀ {s : σ} {c d : Cursor}, Took c d → R s c s d
  /-- A field is read. -/
  read : ∀ {name : String} {s : σ} {c : Cursor} {r : Read σ c}, fields.read name s c = .ok r →
    R s c r.value r.left
  /-- One step comes after the other. -/
  trans : ∀ {s t u : σ} {c d e : Cursor}, R s c t d → R t d u e → R s c u e

variable {R : σ → Cursor → σ → Cursor → Prop} {s : σ}

/-- It holds along the value behind a name. -/
theorem Along.readMember (along : Along fields R) {name : String} {r : Read σ c}
    (h : fields.readMember name s c = .ok r) : R s c r.value r.left := by
  unfold Fields.readMember at h
  split at h
  · split at h
    · cases h
    · obtain ⟨colon, hcolon, h⟩ := exists_of_bind_eq_ok h
      obtain ⟨value, hvalue, h⟩ := exists_of_bind_eq_ok h
      obtain rfl := Except.ok.inj h
      exact along.trans (along.took (took_takeColon hcolon)) (along.read hvalue)
  · obtain ⟨colon, hcolon, h⟩ := exists_of_bind_eq_ok h
    obtain ⟨value, hvalue, h⟩ := exists_of_bind_eq_ok h
    obtain rfl := Except.ok.inj h
    exact along.took ((took_takeColon hcolon).trans (took_skipDue hvalue))

/-- It holds along the members of an object. -/
theorem Along.readMembers (along : Along fields R) {start : Cursor} {first : Bool}
    {le : c.rest.length ≤ start.rest.length} {r : Read σ start}
    (h : fields.readMembers first s c le = .ok r) : R s c r.value r.left := by
  fun_induction Fields.readMembers fields first s c le with
  | case1 | case2 | case3 | case4 | case7 => cases h
  | case5 first s c le name hname _ _ _ _ hmore key hkey _ member hmember _ ih =>
    obtain ⟨htook, hquote⟩ := took_nextName hname
    rw [hmore, if_pos rfl] at hquote
    have hkeyed := (htook.trans (took_next hquote rfl)).trans (took_readContents hkey).1
    exact along.trans (along.trans (along.took hkeyed) (along.readMember hmember)) (ih h)
  | case6 first s c le name hname _ _ _ _ hlast =>
    obtain ⟨htook, hbrace⟩ := took_nextName hname
    rw [if_neg hlast] at hbrace
    cases h
    exact along.took (htook.trans (took_next hbrace rfl))

/-- It holds along the values of an array. -/
theorem Along.readItems (along : Along fields R) {index : Nat} {names : List String} {r : Read σ c}
    (h : fields.readItems index names s c = .ok r) : R s c r.value r.left := by
  induction names generalizing index s c with
  | nil =>
    obtain ⟨close, hclose, h⟩ := exists_of_bind_eq_ok h
    obtain rfl := Except.ok.inj h
    exact along.took (took_endList hclose)
  | cons name names ih =>
    obtain ⟨item, hitem, h⟩ := exists_of_bind_eq_ok h
    obtain ⟨htook, hclose⟩ := took_nextItem hitem
    split at h
    · obtain ⟨value, hvalue, h⟩ := exists_of_bind_eq_ok h
      obtain ⟨rest, hrest, h⟩ := exists_of_bind_eq_ok h
      obtain rfl := Except.ok.inj h
      exact along.trans (along.trans (along.took htook) (along.read hvalue)) (ih hrest)
    · next hfalse =>
      split at h
      · obtain rfl := Except.ok.inj h
        exact along.took (htook.trans (took_next (hclose (Bool.not_eq_true _ ▸ hfalse)) rfl))
      · cases h

/-- A record is read **from a list or from an object**, and the bracket tells from which. -/
theorem readRecord_cases {empty : σ} {r : Read σ c} (h : fields.readRecord empty c = .ok r) :
    (c.spaces.peek? = some 0x5B ∧ ∃ items,
      fields.readItems 0 fields.names empty c.spaces.next = .ok items
        ∧ items.value = r.value ∧ items.left = r.left)
    ∨ (c.spaces.peek? = some 0x7B ∧ ∃ members,
      fields.readMembers true empty c.spaces.next c.spaces.next.le_refl = .ok members
        ∧ members.value = r.value ∧ members.left = r.left) := by
  unfold Fields.readRecord at h
  split at h
  · cases h
  · next b hb =>
    split at h
    · next hopen =>
      obtain ⟨items, hitems, h⟩ := exists_of_bind_eq_ok h
      obtain rfl := Except.ok.inj h
      exact .inl ⟨by rw [hb, beq_iff_eq.mp hopen], items, hitems, rfl, rfl⟩
    split at h
    · next hopen =>
      obtain ⟨members, hmembers, h⟩ := exists_of_bind_eq_ok h
      obtain rfl := Except.ok.inj h
      exact .inr ⟨by rw [hb, beq_iff_eq.mp hopen], members, hmembers, rfl, rfl⟩
    · cases h

/-- **What holds along a text** holds from its beginning to its end, in either form of a record. -/
theorem Along.read? (along : Along fields R) {empty : σ} {text : Bytes}
    (h : fields.read? empty text = .ok s) :
    ∃ d, d.rest = [] ∧ R empty (Cursor.start text) s d := by
  obtain ⟨record, hrecord, h⟩ := exists_of_bind_eq_ok h
  split at h
  · next hend =>
    obtain rfl := Except.ok.inj h
    refine ⟨record.left.spaces, List.head?_eq_none_iff.mp hend, ?_⟩
    refine along.trans ?_ (along.took (took_spaces _))
    obtain ⟨hopen, items, hitems, hvalue, hleft⟩ | ⟨hopen, members, hmembers, hvalue, hleft⟩ :=
      readRecord_cases hrecord
    · rw [← hvalue, ← hleft]
      exact along.trans (along.took ((took_spaces _).trans (took_next hopen rfl)))
        (along.readItems hitems)
    · rw [← hvalue, ← hleft]
      exact along.trans (along.took ((took_spaces _).trans (took_next hopen rfl)))
        (along.readMembers hmembers)
  · cases h

/-- **A text that gives a record holds allowed octets only**, if its fields take no others. -/
theorem isAllowed_of_read? {empty : σ} {text : Bytes} (h : fields.read? empty text = .ok s)
    (hread : ∀ {name : String} {s : σ} {c : Cursor} {r : Read σ c},
      fields.read name s c = .ok r → Took c r.left) : ∀ b ∈ text, isAllowed b = true := by
  have along : Along fields fun _ c _ d => Took c d := ⟨id, hread, Took.trans⟩
  obtain ⟨d, hend, taken, htext, hallowed⟩ := along.read? h
  rw [hend, List.append_nil] at htext
  have htext : text = taken := htext
  rwa [htext]

/-- **A record weighs no more than its text is long**, for any weight that grows by no more than
what reading a field takes. -/
theorem weight_read? (weight : σ → Nat) {empty : σ} {text : Bytes}
    (h : fields.read? empty text = .ok s)
    (hread : ∀ {name : String} {s : σ} {c : Cursor} {r : Read σ c}, fields.read name s c = .ok r →
      weight r.value + r.left.rest.length ≤ weight s + c.rest.length) :
    weight s ≤ weight empty + text.length := by
  have along : Along fields fun s c t d =>
      weight t + d.rest.length ≤ weight s + c.rest.length := by
    refine ⟨fun htook => ?_, hread, fun h₁ h₂ => Nat.le_trans h₂ h₁⟩
    exact Nat.add_le_add_left htook.length_le _
  obtain ⟨d, hend, hle⟩ := along.read? h
  rw [hend] at hle
  exact hle

end Records

end Json

end RecordRelay
