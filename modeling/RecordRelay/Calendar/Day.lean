import RecordRelay.Calendar.Date

/-!
# Numbering the days

The days are numbered from the first of January 1970, which is day 0. Numbers and days go over into
each other by counting years from March on, so that the leap day is the last day of its year. Four
hundred years have 146 097 days; of the hundreds among them, of the fours in a hundred, and of the
years in a four, only the last one can be longer by a day.
-/

namespace RecordRelay.Calendar

/-- A **day** of the calendar. -/
structure Day where
  /-- The year; the year before year 1 is year 0. -/
  year : Int
  /-- The month, from 1 on. -/
  month : Nat
  /-- The day in its month, from 1 on. -/
  day : Nat
  deriving DecidableEq, Repr

namespace Day

/-- The number of days between the first of March of year 0 and the first of January 1970. -/
def epochOffset : Int := 719468

/-- The number of days in the years before `year`, counted from year 0. -/
def daysBefore (year : Int) : Int := 365 * year + year / 4 - year / 100 + year / 400

/-- The year `o` of the four `f` of the hundred `h` of the era `e` begins where the spans before it
end. -/
theorem daysBefore_split (e : Int) {h f o : Nat} (hh : h ≤ 3) (hf : f ≤ 24) (ho : o ≤ 3) :
    daysBefore (e * 400 + (h * 100 + f * 4 + o : Nat)) =
      146097 * e + 36524 * h + 1461 * f + 365 * o := by
  unfold daysBefore
  have four : (e * 400 + (h * 100 + f * 4 + o : Nat)) / 4 = 100 * e + 25 * h + f := by omega
  have hundred : (e * 400 + (h * 100 + f * 4 + o : Nat)) / 100 = 4 * e + h := by omega
  have era : (e * 400 + (h * 100 + f * 4 + o : Nat)) / 400 = e := by omega
  rw [four, hundred, era]
  push_cast
  omega

/-- The **number** of a day. -/
def number (d : Day) : Int :=
  let year := if d.month ≤ 2 then d.year - 1 else d.year
  let month : Nat := if d.month ≤ 2 then d.month + 9 else d.month - 3
  daysBefore year + ((153 * month + 2) / 5 : Nat) + d.day - 1 - epochOffset

/-- The day `inYear` days after the first of March of a year. -/
def ofMarch (year : Int) (inYear : Nat) : Day :=
  let month := (5 * inYear + 2) / 153
  { year := if month < 10 then year else year + 1
    month := if month < 10 then month + 3 else month - 9
    day := inYear - (153 * month + 2) / 5 + 1 }

theorem number_ofMarch (year : Int) {inYear : Nat} (h : inYear ≤ 365) :
    (ofMarch year inYear).number = daysBefore year + inYear - epochOffset := by
  unfold number ofMarch
  dsimp only
  generalize hm : (5 * inYear + 2) / 153 = m
  have hle : (153 * m + 2) / 5 ≤ inYear := by omega
  by_cases late : m < 10
  · have : ¬ m + 3 ≤ 2 := by omega
    simp only [late, if_true, this, if_false, Nat.add_sub_cancel]
    omega
  · have : m - 9 ≤ 2 := by omega
    have back : m - 9 + 9 = m := by omega
    simp only [late, if_false, this, if_true, back, Int.add_sub_cancel]
    omega

/-- The **day with a number**. -/
def ofNumber (n : Int) : Day :=
  let shifted := n + epochOffset
  let inEra := (shifted % 146097).toNat
  let hundreds := min (inEra / 36524) 3
  let inHundred := inEra - hundreds * 36524
  let fours := inHundred / 1461
  let inFour := inHundred % 1461
  let ones := min (inFour / 365) 3
  ofMarch (shifted / 146097 * 400 + (hundreds * 100 + fours * 4 + ones : Nat))
    (inFour - ones * 365)

/-- The day with a number **has that number**. -/
theorem number_ofNumber (n : Int) : (ofNumber n).number = n := by
  unfold ofNumber
  dsimp only
  rw [number_ofMarch, daysBefore_split]
  · unfold epochOffset
    omega
  all_goals omega

end Day

end RecordRelay.Calendar
