import Mathlib.Algebra.Group.Nat.Defs
import RecordRelay.Calendar.Timestamp

/-!
# Timestamps read back

Every part of a timestamp is a number with zeros before it, and behind it stands something that is
no digit. Such a number **reads back** if the reader takes as many digits as there are and allows
the number (`readDigits_padded`); from this the year, the fields, the decimals of a second and at
last the whole timestamp read back one after the other.

What is written of an instant tells it exactly if its day can be told at all, and if the second that
it lies in is an ordinary one or the last of a minute (`IsTold`). Since a date reads back, different
days have different texts.
-/

namespace RecordRelay.Instant

open Calendar (Day)

variable {cs rest : List Char} {n width high : Nat}

/-! ## Numbers -/

/-- Zeros in front do not count. -/
theorem ofDigitChars_replicate (k : Nat) (cs : List Char) :
    Nat.ofDigitChars 10 (List.replicate k '0' ++ cs) 0 = Nat.ofDigitChars 10 cs 0 := by
  induction k with
  | zero => rfl
  | succ k ih => rwa [List.replicate_succ, List.cons_append, Nat.ofDigitChars_cons]

/-- A number with zeros before it is that number. -/
theorem ofDigitChars_padded (width n : Nat) : Nat.ofDigitChars 10 (padded width n) 0 = n := by
  unfold padded
  rw [ofDigitChars_replicate, Nat.ofDigitChars_toDigits (by decide) (by decide)]

/-- It consists of digits. -/
theorem isDigit_of_mem_padded {c : Char} (h : c ∈ padded width n) : c.isDigit = true := by
  obtain h | h := List.mem_append.mp h
  · rw [(List.mem_replicate.mp h).2]
    rfl
  · exact Nat.isDigit_of_mem_toDigits (by decide) (by decide) h

/-- There is a first one. -/
theorem padded_eq_cons (width n : Nat) :
    ∃ c digits, padded width n = c :: digits ∧ c.isDigit = true := by
  have hne : padded width n ≠ [] := fun h => Nat.toDigits_ne_nil (List.append_eq_nil_iff.mp h).2
  obtain ⟨c, digits, h⟩ := List.exists_cons_of_ne_nil hne
  exact ⟨c, digits, h, isDigit_of_mem_padded (h ▸ List.mem_cons_self)⟩

/-- It is as long as the width says, if that is enough. -/
theorem length_padded (hwidth : 0 < width) (h : n < 10 ^ width) :
    (padded width n).length = width := by
  have hle := (Nat.length_toDigits_le_iff (by decide) hwidth).mpr h
  unfold padded
  rw [List.length_append, List.length_replicate]
  omega

/-- No digit is blank. -/
theorem isBlank_of_isDigit {c : Char} (h : c.isDigit = true) : Text.isBlank c = false := by
  simp only [Char.isDigit, Bool.and_eq_true, decide_eq_true_eq, ge_iff_le, UInt32.le_iff_toNat_le]
    at h
  have hle : 0x30 ≤ c.toNat := h.1
  have hge : c.toNat ≤ 0x39 := h.2
  simp only [Text.isBlank, Bool.or_eq_false_iff, Bool.and_eq_false_iff, decide_eq_false_iff_not,
    beq_eq_false_iff_ne]
  omega

/-- So no blanks stand before a number. -/
theorem dropWhile_isBlank_padded (width n : Nat) (rest : List Char) :
    (padded width n ++ rest).dropWhile Text.isBlank = padded width n ++ rest := by
  obtain ⟨c, digits, h, hc⟩ := padded_eq_cons width n
  rw [h, List.cons_append, List.dropWhile_cons_of_neg]
  rw [isBlank_of_isDigit hc]
  exact Bool.false_ne_true

/-- Whether **a number ends** where these characters begin. -/
def EndsNumber (rest : List Char) : Prop := ∀ c ∈ rest.head?, c.isDigit = false

/-- The digits in front of such characters are all there are. -/
theorem takeWhile_isDigit_append {digits : List Char} (hdigits : ∀ c ∈ digits, c.isDigit = true)
    (hrest : EndsNumber rest) : (digits ++ rest).takeWhile Char.isDigit = digits := by
  rw [List.takeWhile_append_of_pos hdigits]
  cases rest with
  | nil => rw [List.takeWhile_nil, List.append_nil]
  | cons c rest =>
    have hc := hrest c rfl
    rw [List.takeWhile_cons_of_neg (by rw [hc]; exact Bool.false_ne_true), List.append_nil]

/-- **A number reads back**, with what follows it. -/
theorem readDigits_padded {w : Nat} (hwidth : (padded w n).length ≤ width) (hhigh : n ≤ high)
    (hrest : EndsNumber rest) : readDigits width high (padded w n ++ rest) = .ok (n, rest) := by
  have hends : EndsNumber (rest.take (width - (padded w n).length)) := by
    intro c hc
    refine hrest c ?_
    rw [List.head?_take] at hc
    split at hc
    · cases hc
    · exact hc
  have hdigits : ((padded w n ++ rest).take width).takeWhile Char.isDigit = padded w n := by
    rw [List.take_append, List.take_of_length_le hwidth]
    exact takeWhile_isDigit_append (fun c => isDigit_of_mem_padded) hends
  obtain ⟨c, digits, h, hc⟩ := padded_eq_cons w n
  unfold readDigits
  split
  · next he =>
    rw [h] at he
    cases he
  · next d tail he =>
    have hd : c = d := by
      rw [h, List.cons_append] at he
      exact (List.cons.inj he).1
    rw [← hd, if_pos hc]
    dsimp only
    rw [hdigits, ofDigitChars_padded, if_pos hhigh, List.drop_left]

/-- A field of two digits reads back. -/
theorem readField_padded {low : Nat} (hlow : low ≤ n) (hhigh : n ≤ high) (h : n < 100)
    (hrest : EndsNumber rest) : readField low high (padded 2 n ++ rest) = .ok (n, rest) := by
  have hwidth : (padded 2 n).length ≤ 2 := Nat.le_of_eq (length_padded (by decide) h)
  unfold readField
  rw [dropWhile_isBlank_padded, readDigits_padded hwidth hhigh hrest]
  simp only [bind, Except.bind, hlow, if_true]
  rfl

/-- A mark is passed. -/
theorem passMark_cons {mark : Char} (h : Text.isBlank mark = false) (rest : List Char) :
    passMark mark (mark :: rest) = .ok rest := by
  unfold passMark
  rw [List.dropWhile_cons_of_neg (by rw [h]; exact Bool.false_ne_true)]
  exact if_pos rfl

/-! ## Dates -/

/-- A minus says that the year is before year 0. -/
theorem readYear_minus (cs : List Char) :
    readYear ('-' :: cs) = do
      let (n, left) ← readDigits cs.length 2147483648 cs
      return (-n, left) := rfl

/-- A plus says that the year may have more digits. -/
theorem readYear_plus (cs : List Char) :
    readYear ('+' :: cs) = do
      let (n, left) ← readDigits cs.length 2147483647 cs
      return (n, left) := rfl

/-- **A year reads back**, if its number is one that years may have. -/
theorem readYear_yearText {year : Int} (h : year.natAbs ≤ 262143) (hrest : EndsNumber rest) :
    readYear (yearText year ++ rest) = .ok (year, rest) := by
  unfold yearText
  split
  · next hplain =>
    have hlength : (padded 4 year.toNat).length ≤ 4 :=
      Nat.le_of_eq (length_padded (by decide) (by omega))
    obtain ⟨c, digits, hcons, hc⟩ := padded_eq_cons 4 year.toNat
    unfold readYear
    rw [dropWhile_isBlank_padded]
    split
    · next he =>
      rw [hcons] at he
      obtain rfl := (List.cons.inj he).1
      cases hc
    · next he =>
      rw [hcons] at he
      obtain rfl := (List.cons.inj he).1
      cases hc
    · rw [readDigits_padded hlength (by omega) hrest]
      show Except.ok ((year.toNat : Int), rest) = _
      rw [Int.toNat_of_nonneg hplain.1]
  · next hsigned =>
    have hlength : (padded 4 year.natAbs).length ≤ (padded 4 year.natAbs ++ rest).length := by
      rw [List.length_append]
      exact Nat.le_add_right ..
    split
    · next hneg =>
      rw [List.cons_append, readYear_minus, readDigits_padded hlength (by omega) hrest]
      show Except.ok (-(year.natAbs : Int), rest) = _
      rw [show -(year.natAbs : Int) = year by omega]
    · next hpos =>
      rw [List.cons_append, readYear_plus, readDigits_padded hlength (by omega) hrest]
      show Except.ok ((year.natAbs : Int), rest) = _
      rw [show (year.natAbs : Int) = year by omega]

/-- Behind a mark that is no digit a number has ended. -/
theorem endsNumber_cons {c : Char} (h : c.isDigit = false) (rest : List Char) :
    EndsNumber (c :: rest) := by
  intro d hd
  cases hd
  exact h

/-- So it has at the end of a text. -/
theorem endsNumber_nil : EndsNumber [] := fun _ h => nomatch h

/-- What can be told of a day are a year that is not too far, a month and a day in it. -/
theorem bounds_of_isTold {d : Day} (h : isTold d = true) :
    (-262143 ≤ d.year ∧ d.year ≤ 262142) ∧ (1 ≤ d.month ∧ d.month ≤ 12)
      ∧ 1 ≤ d.day ∧ d.day ≤ 31 := by
  simp only [isTold, firstDay, lastDay, Calendar.isDay, Bool.and_eq_true, decide_eq_true_eq] at h
  obtain ⟨⟨hyear, hyear'⟩, hday, hle⟩ := h
  unfold Calendar.daysInMonth at hle
  refine ⟨⟨of_decide_eq_true hyear, of_decide_eq_true hyear'⟩, ?_⟩
  split at hle
  · split at hle <;> omega
  split at hle
  · omega
  split at hle <;> omega

/-- **A date reads back.** -/
theorem readDate_dayText {d : Day} (h : isTold d = true) (hrest : EndsNumber rest) :
    readDate (dayText d ++ rest) = .ok (d, rest) := by
  obtain ⟨hyear, hmonth, hday⟩ := bounds_of_isTold h
  have hdash : ∀ cs, EndsNumber ('-' :: cs) := endsNumber_cons rfl
  have htext : dayText d ++ rest
      = yearText d.year ++ '-' :: (padded 2 d.month ++ '-' :: (padded 2 d.day ++ rest)) := by
    simp only [dayText, List.append_assoc, List.cons_append]
  unfold readDate
  rw [htext, readYear_yearText (by omega) (hdash _)]
  simp only [bind, Except.bind]
  rw [passMark_cons (by decide)]
  dsimp only
  rw [readField_padded hmonth.1 hmonth.2 (by omega) (hdash _)]
  dsimp only
  rw [passMark_cons (by decide)]
  dsimp only
  rw [readField_padded hday.1 hday.2 (by omega) hrest]
  rfl

/-- **Different days have different texts.** -/
theorem eq_of_dayText_eq {d e : Day} (hd : isTold d = true) (he : isTold e = true)
    (h : dayText d = dayText e) : d = e := by
  have hread := readDate_dayText hd endsNumber_nil
  rw [h, readDate_dayText he endsNumber_nil] at hread
  exact (Prod.mk.inj (Except.ok.inj hread)).1.symm

/-! ## Times -/

/-- A point says that decimals follow. -/
theorem readFraction_point (cs : List Char) :
    readFraction ('.' :: cs) = do
      let (n, rest) ← readDigits 9 999999999 cs
      return (n * Decimal.tenTo (9 - (cs.length - rest.length)), rest.dropWhile Char.isDigit) := rfl

/-- The decimals of a second read back as its nanoseconds. -/
theorem readFraction_fractionText {nanos : Nat} (h : nanos < 1000000000) (hrest : EndsNumber rest)
    (hpoint : rest.head? ≠ some '.') :
    readFraction (fractionText nanos ++ rest) = .ok (nanos, rest) := by
  -- so many digits behind the point say how much the last of them counts
  have hread : ∀ {w n : Nat}, 0 < w → w ≤ 9 → n < 10 ^ w →
      readFraction ('.' :: padded w n ++ rest) = .ok (n * 10 ^ (9 - w), rest) := by
    intro w n hpos hle hn
    have hlength := length_padded hpos hn
    have hhigh : n ≤ 999999999 :=
      Nat.le_of_lt_succ (Nat.lt_of_lt_of_le hn (Nat.pow_le_pow_right (by decide) hle))
    have hdrop : rest.dropWhile Char.isDigit = rest := by
      cases rest with
      | nil => rfl
      | cons c rest =>
        rw [List.dropWhile_cons_of_neg (by rw [hrest c rfl]; exact Bool.false_ne_true)]
    rw [List.cons_append, readFraction_point, readDigits_padded (by omega) hhigh hrest]
    simp only [bind, Except.bind, hdrop, List.length_append, hlength, Nat.add_sub_cancel]
    rfl
  unfold fractionText
  split
  · next hzero =>
    rw [hzero, List.nil_append]
    unfold readFraction
    split
    · exact absurd rfl hpoint
    · rfl
  split
  · rw [hread (by decide) (by decide) (by omega),
      show nanos / 1000000 * 10 ^ (9 - 3) = nanos by omega]
  split
  · rw [hread (by decide) (by decide) (by omega), show nanos / 1000 * 10 ^ (9 - 6) = nanos by omega]
  · rw [hread (by decide) (by decide) (by omega), show nanos * 10 ^ (9 - 9) = nanos by omega]

/-- The seconds end before their decimals. -/
theorem endsNumber_fractionText (nanos : Nat) (hrest : EndsNumber rest) :
    EndsNumber (fractionText nanos ++ rest) := by
  unfold fractionText
  split
  · exact hrest
  split
  · exact endsNumber_cons rfl _
  split
  · exact endsNumber_cons rfl _
  · exact endsNumber_cons rfl _

/-- Whether what is written of an instant **tells it exactly**: its day can be told, and a second
with more than a thousand million nanoseconds is the last one of a minute. -/
structure Told (t : Instant) : Prop where
  /-- The day can be told. -/
  day : isTold t.day = true
  /-- A leap second is the last one of its minute. -/
  second : t.nanos < 1000000000 ∨ t.nanos < 2000000000 ∧ t.inDay % 60 = 59

instance (t : Instant) : Decidable t.Told :=
  decidable_of_iff (_ ∧ _) ⟨fun ⟨hday, hsecond⟩ => ⟨hday, hsecond⟩,
    fun ⟨hday, hsecond⟩ => ⟨hday, hsecond⟩⟩

variable {t : Instant}

/-- A day has so many seconds. -/
theorem inDay_lt (t : Instant) : t.inDay < 86400 := by
  unfold inDay
  omega

/-- **Hours, minutes and seconds read back**, with their decimals. -/
theorem readClock_padded {hour minute second nanos : Nat} (hhour : hour ≤ 23)
    (hminute : minute ≤ 59) (hsecond : second ≤ 60) (hnanos : nanos < 1000000000)
    (hrest : EndsNumber rest) (hpoint : rest.head? ≠ some '.') :
    readClock (padded 2 hour ++ ':' :: padded 2 minute ++ ':' :: padded 2 second
        ++ fractionText nanos ++ rest)
      = .ok (if second < 60 then (hour * 3600 + minute * 60 + second, nanos)
        else (hour * 3600 + minute * 60 + 59, nanos + 1000000000), rest) := by
  have hcolon : ∀ cs, EndsNumber (':' :: cs) := endsNumber_cons rfl
  simp only [List.append_assoc, List.cons_append]
  unfold readClock
  rw [readField_padded (Nat.zero_le _) hhour (by omega) (hcolon _)]
  simp only [bind, Except.bind]
  rw [passMark_cons (by decide)]
  dsimp only
  rw [readField_padded (Nat.zero_le _) hminute (by omega) (hcolon _)]
  dsimp only
  rw [passMark_cons (by decide)]
  dsimp only
  rw [readField_padded (Nat.zero_le _) hsecond (by omega) (endsNumber_fractionText _ hrest)]
  dsimp only
  rw [readFraction_fractionText hnanos hrest hpoint]
  by_cases hearly : second < 60
  · simp only [hearly, if_true, Nat.sub_zero, Nat.zero_mul, Nat.add_zero]
    rfl
  · simp only [hearly, if_false, Nat.one_mul, show second - 1 = 59 by omega]
    rfl

/-- **A time reads back.** A leap second is written as second 60, and so is nothing else. -/
theorem readClock_clockText (h : t.Told) (hrest : EndsNumber rest)
    (hpoint : rest.head? ≠ some '.') :
    readClock (t.clockText ++ rest) = .ok ((t.inDay, t.nanos), rest) := by
  have hlt := t.inDay_lt
  have hhour : t.inDay / 3600 ≤ 23 := by omega
  have hminute : t.inDay / 60 % 60 ≤ 59 := by omega
  unfold clockText
  by_cases hordinary : t.nanos < 1000000000
  · simp only [hordinary, if_true, Nat.add_zero, Nat.zero_mul, Nat.sub_zero]
    rw [readClock_padded hhour hminute (by omega) hordinary hrest hpoint, if_pos (by omega),
      show t.inDay / 3600 * 3600 + t.inDay / 60 % 60 * 60 + t.inDay % 60 = t.inDay by omega]
  · obtain hsecond | ⟨hnanos, hlast⟩ := h.second
    · exact absurd hsecond hordinary
    simp only [hordinary, if_false, Nat.one_mul]
    rw [readClock_padded hhour hminute (by omega) (by omega) hrest hpoint, if_neg (by omega),
      show t.inDay / 3600 * 3600 + t.inDay / 60 % 60 * 60 + 59 = t.inDay by omega,
      Nat.sub_add_cancel (Nat.le_of_not_lt hordinary)]

/-! ## Instants -/

/-- A day that can be told lies between the first and the last. -/
theorem number_le_of_isTold {d : Day} (h : isTold d = true) :
    firstDay.number ≤ d.number ∧ d.number ≤ lastDay.number := by
  obtain ⟨⟨hlow, hhigh⟩, hmonth, hday⟩ := bounds_of_isTold h
  have hfirst : firstDay.number = -96465292 := by decide
  have hlast : lastDay.number = 95026236 := by decide
  rw [hfirst, hlast]
  unfold Day.number Day.daysBefore Day.epochOffset
  dsimp only
  split
  · constructor <;> omega
  · constructor <;> omega

/-- **An instant reads back.** -/
theorem read?_text (h : t.Told) : read? t.text = .ok t := by
  have hnumber : t.day.number = t.seconds / 86400 := Day.number_ofNumber _
  have hbounds := number_le_of_isTold h.day
  have hseconds : t.day.number * 86400 + (t.inDay : Int) - 0 = t.seconds := by
    rw [hnumber]
    unfold inDay
    omega
  have htext : t.text.toList = dayText t.day ++ 'T' :: (t.clockText ++ ['Z']) := by
    rw [text, String.toList_ofList, List.append_assoc, List.cons_append]
  have hjoint : passJoint ('T' :: (t.clockText ++ ['Z'])) = .ok (t.clockText ++ ['Z']) := rfl
  have hclock : readClock (t.clockText ++ ['Z']) = .ok ((t.inDay, t.nanos), ['Z']) :=
    readClock_clockText h (endsNumber_cons rfl _) (by decide)
  have hoffset : readOffset ['Z'] = .ok (0, []) := rfl
  unfold read?
  rw [htext, readDate_dayText h.day (endsNumber_cons rfl _)]
  simp only [bind, Except.bind, hjoint, hclock, hoffset, List.all_nil, if_true]
  unfold ofClock
  rw [if_pos ⟨h.day, by decide⟩, hseconds, if_pos (hnumber ▸ hbounds)]

end RecordRelay.Instant
