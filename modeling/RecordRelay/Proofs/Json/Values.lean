import RecordRelay.Proofs.Json.Spelled

/-!
# Values of every kind

What may stand as a value in a text is said by `IsValue`: words, numbers of any size, strings that
need not be text, and brackets in brackets to any depth, with blanks between the parts.

A scalar value is **passed and nothing more**, whatever follows it. Only for a number must the rest
be such that the number does not go on in it (`goesOn`), and no blank, no comma and no bracket is.
-/

namespace RecordRelay.Json

variable {c : Cursor} {b : UInt8} {rest : Bytes}

/-! ## Looking at the next octet -/

/-- The next octet satisfies what it satisfies. -/
theorem Cursor.nextIs_of_rest (p : UInt8 → Bool) (h : c.rest = b :: rest) : c.nextIs p = p b := by
  unfold nextIs
  rw [peek?_of_rest h]

/-- Octets that do not go on with `p` do not begin with it. -/
theorem Cursor.nextIs_of_stops {p : UInt8 → Bool} (h : Stops p c.rest) : c.nextIs p = false := by
  unfold nextIs peek?
  unfold Stops at h
  split
  · next b hb => exact h b hb
  · rfl

/-- Octets that do not go on with `q` do not go on with less. -/
theorem Stops.mono {p q : UInt8 → Bool} (hpq : ∀ b, p b = true → q b = true)
    (h : Stops q rest) : Stops p rest := by
  intro b hb
  have hq := h b hb
  cases hp : p b with
  | false => rfl
  | true => rw [hpq b hp] at hq; cases hq

/-- Where nothing is left, nothing goes on. -/
theorem Stops.nil {p : UInt8 → Bool} : Stops p [] := by
  intro x hx
  cases hx

/-- One octet says whether octets go on. -/
theorem Stops.cons {p : UInt8 → Bool} (h : p b = false) (rest : Bytes) : Stops p (b :: rest) := by
  intro x hx
  cases hx
  exact h

/-! ## Numbers -/

/-- Whether octets are **digits**. -/
def Digits (octets : Bytes) : Prop := ∀ b ∈ octets, isDigit b = true

/-- The **whole part** of a number: no digit stands behind a zero. -/
inductive IsWhole : Bytes → Prop
  | zero : IsWhole [0x30]
  | digits {b : UInt8} {octets : Bytes} (hb : isDigit b = true) (hne : b ≠ 0x30)
    (h : Digits octets) : IsWhole (b :: octets)

/-- What follows a point, or nothing. -/
inductive IsFraction : Bytes → Prop
  | none : IsFraction []
  | point {b : UInt8} {octets : Bytes} (hb : isDigit b = true) (h : Digits octets) :
    IsFraction (0x2E :: b :: octets)

/-- The power of ten, or nothing. -/
inductive IsExponent : Bytes → Prop
  | none : IsExponent []
  | power {mark b : UInt8} {sign octets : Bytes} (hmark : mark = 0x65 ∨ mark = 0x45)
    (hsign : sign = [] ∨ sign = [0x2B] ∨ sign = [0x2D]) (hb : isDigit b = true)
    (h : Digits octets) : IsExponent (mark :: (sign ++ b :: octets))

/-- A **number** of any size. -/
inductive IsNumber : Bytes → Prop
  | mk {sign whole fraction exponent : Bytes} (hsign : sign = [] ∨ sign = [0x2D])
    (hwhole : IsWhole whole) (hfraction : IsFraction fraction) (hexponent : IsExponent exponent) :
    IsNumber (sign ++ (whole ++ (fraction ++ exponent)))

/-- Whether a number may **go on** with an octet. -/
def goesOn (b : UInt8) : Bool := isDigit b || b == 0x2E || isExponentMark b

/-- Digits are passed. -/
theorem Cursor.digits_append {octets : Bytes} (h : Digits octets) (hc : c.rest = octets ++ rest)
    (hrest : Stops isDigit rest) : c.digits.rest = rest := by
  rw [digits, hc]
  exact skipWhile_append h hrest c.position

/-- A power of ten does not go on with digits or a point. -/
theorem IsExponent.stops {exponent : Bytes} (h : IsExponent exponent) (hends : Stops goesOn rest) :
    Stops (fun b => isDigit b || b == 0x2E) (exponent ++ rest) := by
  cases h with
  | none => exact hends.mono fun b hb => by rw [goesOn, hb, Bool.true_or]
  | power hmark =>
    refine .cons ?_ _
    obtain rfl | rfl := hmark <;> rfl

/-- What follows the whole part does not go on with digits. -/
theorem IsFraction.stops {fraction exponent : Bytes} (h : IsFraction fraction)
    (hexponent : IsExponent exponent) (hends : Stops goesOn rest) :
    Stops isDigit (fraction ++ (exponent ++ rest)) := by
  cases h with
  | none => exact (hexponent.stops hends).mono fun b hb => by rw [hb, Bool.true_or]
  | point => exact .cons rfl _

/-- A sign is passed, if there is one before a digit. -/
theorem Cursor.nextIf_sign {sign : Bytes} (hsign : sign = [] ∨ sign = [0x2B] ∨ sign = [0x2D])
    (hb : isDigit b = true) (hc : c.rest = sign ++ b :: rest) :
    (c.nextIf fun b => b == 0x2B || b == 0x2D).rest = b :: rest := by
  unfold nextIf
  obtain rfl | rfl | rfl := hsign
  · have hnot : (b == 0x2B || b == 0x2D) = false := by
      cases hx : (b == 0x2B || b == 0x2D) with
      | false => rfl
      | true =>
        simp only [Bool.or_eq_true, beq_iff_eq] at hx
        obtain rfl | rfl := hx <;> cases hb
    rw [nextIs_of_rest _ hc, hnot]
    exact hc
  all_goals
    rw [nextIs_of_rest _ hc]
    exact next_rest hc

/-- A power of ten is passed, if there is one. -/
theorem IsExponent.gives {exponent : Bytes} (h : IsExponent exponent) (hends : Stops goesOn rest)
    (hc : c.rest = exponent ++ rest) : Gives (skipFinish c) () rest := by
  have hdigits : Stops isDigit rest := hends.mono fun b hb => by
    rw [goesOn, hb, Bool.true_or, Bool.true_or]
  unfold skipFinish
  cases h with
  | none =>
    have hmark : Stops isExponentMark rest := hends.mono fun b hb => by
      rw [goesOn, hb, Bool.or_true]
    rw [List.nil_append] at hc
    rw [Cursor.nextIs_of_stops (hc ▸ hmark)]
    exact ⟨_, rfl, rfl, hc⟩
  | @power mark b sign octets hmark hsign hb h =>
    have hmarked : c.nextIs isExponentMark = true := by
      rw [Cursor.nextIs_of_rest _ hc]
      obtain rfl | rfl := hmark <;> rfl
    have hnext : c.next.rest = sign ++ b :: (octets ++ rest) :=
      (Cursor.next_rest hc).trans (List.append_assoc ..)
    have hsigned := Cursor.nextIf_sign hsign hb hnext
    have hall : Digits (b :: octets) := List.forall_mem_cons.mpr ⟨hb, h⟩
    rw [hmarked]
    unfold skipExponent
    dsimp only
    rw [if_pos rfl, Cursor.nextIs_of_rest _ hsigned, hb]
    exact ⟨_, rfl, rfl, Cursor.digits_append hall hsigned hdigits⟩

/-- What follows the whole part of a number is passed. -/
theorem IsFraction.gives {fraction exponent : Bytes} (h : IsFraction fraction)
    (hexponent : IsExponent exponent) (hends : Stops goesOn rest)
    (hc : c.rest = fraction ++ (exponent ++ rest)) : Gives (skipTail c) () rest := by
  have hstops := hexponent.stops hends
  unfold skipTail
  cases h with
  | none =>
    have hpoint : Stops (· == 0x2E) c.rest := by
      rw [hc]
      exact hstops.mono fun b hb => by rw [hb, Bool.or_true]
    rw [Cursor.nextIs_of_stops hpoint]
    exact hexponent.gives hends hc
  | @point b octets hb h =>
    have hnext := Cursor.next_rest hc
    have hall : Digits (b :: octets) := List.forall_mem_cons.mpr ⟨hb, h⟩
    have hdigits : c.next.digits.rest = exponent ++ rest :=
      Cursor.digits_append hall hnext (hstops.mono fun b hb => by rw [hb, Bool.true_or])
    obtain ⟨read, hok, -, hrest⟩ := hexponent.gives hends hdigits
    rw [Cursor.nextIs_of_rest _ hc]
    unfold skipFraction
    dsimp only
    rw [Cursor.nextIs_of_rest _ hnext, hb, hok]
    exact ⟨_, rfl, rfl, hrest⟩

/-- A number is passed from its first digit on. -/
theorem IsWhole.gives {octets fraction exponent : Bytes} (h : IsWhole (b :: octets))
    (hfraction : IsFraction fraction) (hexponent : IsExponent exponent)
    (hends : Stops goesOn rest) (hc : c.rest = octets ++ (fraction ++ (exponent ++ rest))) :
    Gives (skipNumber b c) () rest := by
  have hstops := hfraction.stops hexponent hends
  unfold skipNumber
  cases h with
  | zero =>
    rw [List.nil_append] at hc
    rw [if_pos (beq_self_eq_true _), Cursor.nextIs_of_stops (hc ▸ hstops)]
    exact hfraction.gives hexponent hends hc
  | digits hb hne h =>
    obtain ⟨read, hok, -, hrest⟩ :=
      hfraction.gives hexponent hends (Cursor.digits_append h hc hstops)
    rw [if_neg (by simpa using hne), if_pos hb, hok]
    exact ⟨_, rfl, rfl, hrest⟩

/-! ## Words and strings -/

/-- The octets of a word are passed. -/
theorem passLiteral_gives {word : Bytes} (hc : c.rest = word ++ rest) :
    Gives (passLiteral word c) () rest := by
  induction word generalizing c with
  | nil => exact ⟨_, rfl, rfl, hc⟩
  | cons b word ih =>
    obtain ⟨read, hok, -, hrest⟩ := ih (Cursor.next_rest hc)
    unfold passLiteral
    rw [Cursor.peek?_of_rest hc]
    dsimp only
    rw [if_pos (beq_self_eq_true b), hok]
    exact ⟨_, rfl, rfl, hrest⟩

/-- What may stand **between two quotes** where nobody asks which text it spells: any octets but
quotes, backslashes and controls, and escapes of any unit. -/
inductive IsContents : Bytes → Prop
  | nil : IsContents []
  | plain {b : UInt8} {contents : Bytes} (hb : 0x20 ≤ b ∧ b ≠ 0x22 ∧ b ≠ 0x5C)
    (h : IsContents contents) : IsContents (b :: contents)
  | letter {letter value : UInt8} {contents : Bytes} (hl : letters.lookup letter = some value)
    (h : IsContents contents) : IsContents (0x5C :: letter :: contents)
  | unit {x₁ x₂ x₃ x₄ : UInt8} {n : Nat} {contents : Bytes} (hx : IsUnit x₁ x₂ x₃ x₄ n)
    (h : IsContents contents) : IsContents (0x5C :: 0x75 :: x₁ :: x₂ :: x₃ :: x₄ :: contents)

/-- A spelling of a text may stand there. -/
theorem SpellsOctets.isContents {contents octets : Bytes} (h : SpellsOctets contents octets) :
    IsContents contents := by
  induction h with
  | nil => exact .nil
  | plain hb _ ih => exact .plain hb ih
  | escape he _ ih =>
    cases he with
    | letter hl => exact .letter hl ih
    | unit hx => exact .unit hx ih
    | pair hhigh hlow => exact .unit hhigh (.unit hlow ih)

section Contents

variable {start : Cursor} (le : c.rest.length ≤ start.rest.length)

/-- What passing does next depends on the next octet. -/
theorem skipContents_of_peek? (h : c.peek? = some b) :
    skipContents c le
      = if b == 0x22 then .ok ((Read.step () c).since le)
        else if b == 0x5C then
          match skipEscape c.next with
          | .error e => .error e
          | .ok escape =>
            skipContents escape.left (Nat.le_trans (Nat.le_trans escape.left_le c.next_le) le)
        else if b < 0x20 then c.fail .controlCharacter
        else skipContents c.next (Nat.le_trans c.next_le le) := by
  rw [skipContents]
  split
  · next hnone =>
    rw [hnone] at h
    cases h
  · next b' hsome =>
    rw [hsome] at h
    cases h
    rfl

/-- An escape is passed, and passing goes on behind it. -/
theorem skipContents_escape {escaped : Bytes} (hc : c.rest = 0x5C :: escaped)
    (hescape : Gives (skipEscape c.next) () rest) :
    ∃ d le', d.rest = rest ∧ skipContents c le = skipContents d le' := by
  obtain ⟨read, hok, -, hrest⟩ := hescape
  refine ⟨read.left, Nat.le_trans (Nat.le_trans read.left_le c.next_le) le, hrest, ?_⟩
  rw [skipContents_of_peek? le (Cursor.peek?_of_rest hc), if_neg (by decide), if_pos (by decide),
    hok]

/-- **What stands between two quotes is passed** with the second of them. -/
theorem IsContents.gives {contents : Bytes} (h : IsContents contents)
    (hc : c.rest = contents ++ 0x22 :: rest) : Gives (skipContents c le) () rest := by
  induction h generalizing c with
  | nil => exact ⟨_, skipContents_of_peek? le (Cursor.peek?_of_rest hc), rfl, Cursor.next_rest hc⟩
  | plain hb _ ih =>
    rw [skipContents_of_peek? le (Cursor.peek?_of_rest hc), if_neg (by simpa using hb.2.1),
      if_neg (by simpa using hb.2.2), if_neg (UInt8.not_lt.mpr hb.1)]
    exact ih _ (Cursor.next_rest hc)
  | @letter letter value contents hl _ ih =>
    have hnext := Cursor.next_rest hc
    have hescape : Gives (skipEscape c.next) () (contents ++ 0x22 :: rest) := by
      unfold skipEscape
      rw [Cursor.peek?_of_rest hnext]
      simp only [ne_of_lookup_letters hl, Bool.false_eq_true, if_false, escape?_eq_lookup, hl,
        Option.isSome_some, if_true]
      exact ⟨_, rfl, rfl, Cursor.next_rest hnext⟩
    obtain ⟨d, led, hd, hstep⟩ := skipContents_escape le hc hescape
    rw [hstep]
    exact ih led hd
  | @unit x₁ x₂ x₃ x₄ n contents hx _ ih =>
    have hnext := Cursor.next_rest hc
    obtain ⟨read, hok, -, hrest⟩ := readUnit_gives (Cursor.next_rest hnext) hx
    have hescape : Gives (skipEscape c.next) () (contents ++ 0x22 :: rest) := by
      unfold skipEscape
      rw [Cursor.peek?_of_rest hnext]
      dsimp only
      rw [if_pos (by decide), hok]
      exact ⟨_, rfl, rfl, hrest⟩
    obtain ⟨d, led, hd, hstep⟩ := skipContents_escape le hc hescape
    rw [hstep]
    exact ih led hd

end Contents

/-- A string ends at **one quote only**. -/
theorem IsContents.unique {contents others more : Bytes} (h : IsContents contents)
    (h' : IsContents others) (heq : contents ++ 0x22 :: rest = others ++ 0x22 :: more) :
    contents = others ∧ rest = more := by
  have hgives := h.gives (c := ⟨contents ++ 0x22 :: rest, ⟨1, 0⟩⟩) (Cursor.le_refl _) rfl
  have hgives' := h'.gives (c := ⟨contents ++ 0x22 :: rest, ⟨1, 0⟩⟩) (Cursor.le_refl _) heq
  obtain ⟨read, hok, -, hrest⟩ := hgives
  obtain ⟨read', hok', -, hrest'⟩ := hgives'
  rw [hok] at hok'
  cases hok'
  rw [hrest] at hrest'
  subst hrest'
  exact ⟨List.append_cancel_right heq, rfl⟩

/-! ## Values -/

/-- The octet that opens a bracket. -/
def Bracket.opening : Bracket → UInt8
  | list => 0x5B
  | object => 0x7B

/-- What stands **before a value** in a bracket: nothing in a list, a name and a colon in an
object. -/
inductive IsLabel : Bracket → Bytes → Prop
  | list : IsLabel .list []
  | object {before name after : Bytes} (hbefore : Blank before) (hname : IsContents name)
    (hafter : Blank after) : IsLabel .object (before ++ 0x22 :: (name ++ 0x22 :: (after ++ [0x3A])))

/-- A value in a bracket with what stands around it. -/
structure Item where
  /-- What stands before it in its bracket. -/
  label : Bytes
  /-- Blanks before the value. -/
  before : Bytes
  /-- The value. -/
  value : Bytes
  /-- Blanks behind it. -/
  after : Bytes

/-- The octets of a value with what stands around it. -/
def Item.octets (i : Item) : Bytes := i.label ++ (i.before ++ (i.value ++ i.after))

/-- Pieces **with commas between them**, and `blank` where there are none. -/
def listed (blank : Bytes) : List Bytes → Bytes
  | [] => blank
  | piece :: pieces => piece ++ pieces.flatMap (0x2C :: ·)

/-- The words `null`, `true` and `false`, each as its first octet and the others. -/
def words : List (UInt8 × Bytes) :=
  [(0x6E, nullTail), (0x74, trueTail), (0x66, falseTail)]

/-- Whether octets are **a value** of any kind. -/
inductive IsValue : Bytes → Prop
  | word {b : UInt8} {tail : Bytes} (h : (b, tail) ∈ words) : IsValue (b :: tail)
  | number {octets : Bytes} (h : IsNumber octets) : IsValue octets
  | string {contents : Bytes} (h : IsContents contents) : IsValue (0x22 :: (contents ++ [0x22]))
  | bracket (bracket : Bracket) {blank : Bytes} {items : List Item} (hblank : Blank blank)
    (label : ∀ i ∈ items, IsLabel bracket i.label)
    (blanks : ∀ i ∈ items, Blank i.before ∧ Blank i.after)
    (value : ∀ i ∈ items, IsValue i.value) :
    IsValue (bracket.opening :: (listed blank (items.map Item.octets) ++ [bracket.closing]))

/-- The octets with which values begin that are no number above zero. -/
def marks : List UInt8 := [0x6E, 0x74, 0x66, 0x2D, 0x22, 0x5B, 0x7B]

/-- They are no blanks and close no bracket. -/
theorem isSpace_of_mem_marks (h : b ∈ marks) :
    isSpace b = false ∧ ∀ bracket : Bracket, (b == bracket.closing) = false := by
  simp only [marks, List.mem_cons, List.not_mem_nil, or_false] at h
  refine ⟨?_, fun bracket => ?_⟩
  · obtain rfl | rfl | rfl | rfl | rfl | rfl | rfl := h <;> decide
  · obtain rfl | rfl | rfl | rfl | rfl | rfl | rfl := h <;> cases bracket <;> decide

/-- A digit is none of them, and neither a blank nor does it close a bracket. -/
theorem isSpace_of_isDigit (h : isDigit b = true) :
    isSpace b = false ∧ (∀ bracket : Bracket, (b == bracket.closing) = false)
      ∧ ∀ mark ∈ marks, (b == mark) = false := by
  have hall : ∀ n : Fin 256, isDigit (UInt8.ofFin n) = true → isSpace (UInt8.ofFin n) = false
      ∧ ∀ other ∈ 0x5D :: 0x7D :: marks, (UInt8.ofFin n == other) = false := by
    decide +kernel
  obtain ⟨hspace, hne⟩ := hall b.toFin h
  refine ⟨hspace, fun bracket => hne _ ?_, fun mark hmark => hne mark ?_⟩
  · cases bracket <;> decide
  · exact List.mem_cons_of_mem _ (List.mem_cons_of_mem _ hmark)

/-- A whole part begins with a digit. -/
theorem IsWhole.exists_cons {whole : Bytes} (h : IsWhole whole) :
    ∃ b octets, whole = b :: octets ∧ isDigit b = true := by
  cases h with
  | zero => exact ⟨_, _, rfl, rfl⟩
  | digits hb => exact ⟨_, _, rfl, hb⟩

/-- A number begins with a digit or a minus sign. -/
theorem IsNumber.exists_cons {octets : Bytes} (h : IsNumber octets) :
    ∃ b tail, octets = b :: tail ∧ (isDigit b = true ∨ b = 0x2D) := by
  obtain ⟨hsign, hwhole⟩ := h
  obtain ⟨b, digits, rfl, hb⟩ := hwhole.exists_cons
  obtain rfl | rfl := hsign
  · exact ⟨b, _, rfl, .inl hb⟩
  · exact ⟨0x2D, _, rfl, .inr rfl⟩

/-- A word begins with one of three letters. -/
theorem mem_marks_of_mem_words {tail : Bytes} (h : (b, tail) ∈ words) :
    b ∈ marks ∧ ∀ bracket : Bracket, (b == bracket.opening) = false := by
  simp only [words, List.mem_cons, Prod.mk.injEq, List.not_mem_nil, or_false] at h
  refine ⟨?_, fun bracket => ?_⟩
  · obtain ⟨rfl, -⟩ | ⟨rfl, -⟩ | ⟨rfl, -⟩ := h <;> decide
  · obtain ⟨rfl, -⟩ | ⟨rfl, -⟩ | ⟨rfl, -⟩ := h <;> cases bracket <;> decide

/-- **A value begins** with an octet that is no blank and does not close a bracket. -/
theorem IsValue.exists_cons {octets : Bytes} (h : IsValue octets) :
    ∃ b tail, octets = b :: tail ∧ isSpace b = false
      ∧ ∀ bracket : Bracket, (b == bracket.closing) = false := by
  cases h with
  | @word b tail h => exact ⟨b, tail, rfl, isSpace_of_mem_marks (mem_marks_of_mem_words h).1⟩
  | @string contents => exact ⟨0x22, _, rfl, isSpace_of_mem_marks (by decide)⟩
  | bracket bracket =>
    exact ⟨bracket.opening, _, rfl, isSpace_of_mem_marks (by cases bracket <;> decide)⟩
  | number h =>
    obtain ⟨b, tail, rfl, hdigit | rfl⟩ := h.exists_cons
    · obtain ⟨hspace, hcloses, -⟩ := isSpace_of_isDigit hdigit
      exact ⟨b, tail, rfl, hspace, hcloses⟩
    · exact ⟨0x2D, tail, rfl, isSpace_of_mem_marks (by decide)⟩

/-- A value that begins with a quote is a string. -/
theorem IsValue.exists_contents {tail : Bytes} (h : IsValue (0x22 :: tail)) :
    ∃ contents, tail = contents ++ [0x22] ∧ IsContents contents := by
  generalize hoctets : 0x22 :: tail = octets at h
  cases h with
  | word h =>
    obtain rfl := (List.cons.inj hoctets).1
    exact absurd h (by simp [words])
  | number h =>
    obtain ⟨b, tail', rfl, hb⟩ := h.exists_cons
    obtain rfl := (List.cons.inj hoctets).1
    obtain hb | hb := hb <;> cases hb
  | @string contents h => exact ⟨contents, (List.cons.inj hoctets).2, h⟩
  | bracket bracket =>
    have hopening := (List.cons.inj hoctets).1
    cases bracket <;> cases hopening

/-! ## Passing scalars -/

/-- A word is passed as a value. -/
theorem skipScalar_word {tail : Bytes} (h : (b, tail) ∈ words) (hc : c.rest = b :: (tail ++ rest)) :
    Gives (skipScalar b c) () rest := by
  have hgives := passLiteral_gives (Cursor.next_rest hc)
  simp only [words, List.mem_cons, Prod.mk.injEq, List.not_mem_nil, or_false] at h
  obtain ⟨rfl, rfl⟩ | ⟨rfl, rfl⟩ | ⟨rfl, rfl⟩ := h <;> exact hgives

/-- A string is passed as a value. -/
theorem skipScalar_string {contents : Bytes} (h : IsContents contents)
    (hc : c.rest = 0x22 :: (contents ++ 0x22 :: rest)) : Gives (skipScalar 0x22 c) () rest :=
  h.gives _ (Cursor.next_rest hc)

/-- A number is passed as a value. -/
theorem skipScalar_number {octets tail : Bytes} (h : IsNumber octets) (hoctets : octets = b :: tail)
    (hends : Stops goesOn rest) (hc : c.rest = octets ++ rest) :
    Gives (skipScalar b c) () rest := by
  obtain @⟨sign, whole, fraction, exponent, hsign, hwhole, hfraction, hexponent⟩ := h
  obtain ⟨digit, digits, rfl, hdigit⟩ := hwhole.exists_cons
  rw [List.append_assoc, List.append_assoc, List.append_assoc] at hc
  obtain rfl | rfl := hsign
  · obtain rfl := (List.cons.inj hoctets).1
    obtain ⟨-, -, hne⟩ := isSpace_of_isDigit hdigit
    unfold skipScalar
    rw [hne 0x6E (by decide), hne 0x74 (by decide), hne 0x66 (by decide), hne 0x2D (by decide),
      hdigit]
    exact hwhole.gives hfraction hexponent hends (Cursor.next_rest hc)
  · obtain rfl := (List.cons.inj hoctets).1
    have hbehind := Cursor.next_rest hc
    obtain ⟨read, hok, -, hrest⟩ :=
      hwhole.gives hfraction hexponent hends (Cursor.next_rest hbehind)
    unfold skipScalar
    rw [if_neg (by decide), if_neg (by decide), if_neg (by decide), if_pos (by decide),
      Cursor.peek?_of_rest hbehind]
    dsimp only
    rw [hok]
    exact ⟨_, rfl, rfl, hrest⟩

/-- A name and its colon are passed. -/
theorem IsLabel.gives {bracket : Bracket} {label : Bytes} (h : IsLabel bracket label)
    (hc : c.rest = label ++ rest) : Gives (skipName bracket c) () rest := by
  cases h with
  | list => exact ⟨_, rfl, rfl, hc⟩
  | @object before name after hbefore hname hafter =>
    have hopen : c.rest = before ++ 0x22 :: (name ++ 0x22 :: (after ++ 0x3A :: rest)) := by
      rw [hc]
      simp only [List.append_assoc, List.cons_append, List.nil_append]
    have hspaces := Cursor.spaces_rest hbefore hopen (by decide)
    obtain ⟨read, hok, -, hleft⟩ := hname.gives (Cursor.le_refl _) (Cursor.next_rest hspaces)
    have hcolon := Cursor.spaces_rest hafter hleft (by decide)
    unfold skipName
    dsimp only
    rw [Cursor.peek?_of_rest hspaces]
    simp only [beq_self_eq_true, if_true, skipString, hok, bind, Except.bind,
      Cursor.peek?_of_rest hcolon]
    exact ⟨_, rfl, rfl, Cursor.next_rest hcolon⟩

end RecordRelay.Json
