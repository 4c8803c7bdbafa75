import RecordRelay.Calendar.Day
import RecordRelay.Calendar.Instant
import RecordRelay.Decimal.Power
import RecordRelay.Text.Blank

/-!
# Timestamps

An instant is **written** as date and time of the universal clock with a `Z` behind them. Years
before 0 and after 9999 have a sign. Of a second only as many decimals are written as it takes, in
groups of three. A leap second is the second 60 of its minute.

It is **read** more freely, by readers that give what they read and the characters behind it.
Between the parts there may be blanks, numbers need not have all their digits, a year may have a
sign, and the clock may be any that differs from the universal one by less than a day. What is
written reads back as the same instant.
-/

namespace RecordRelay.Instant

open Calendar (Day)

/-! ## Writing -/

/-- The decimal digits of a number, with zeros before them up to a `width`. -/
def padded (width n : Nat) : List Char :=
  let digits := Nat.toDigits 10 n
  List.replicate (width - digits.length) '0' ++ digits

/-- A year as it is written. -/
def yearText (year : Int) : List Char :=
  if 0 ≤ year ∧ year ≤ 9999 then padded 4 year.toNat
  else (if year < 0 then '-' else '+') :: padded 4 year.natAbs

/-- A day as it is written. -/
def dayText (d : Day) : List Char :=
  yearText d.year ++ '-' :: padded 2 d.month ++ '-' :: padded 2 d.day

/-- The decimals of a second, by its nanoseconds. -/
def fractionText (nanos : Nat) : List Char :=
  if nanos = 0 then []
  else if nanos % 1000000 = 0 then '.' :: padded 3 (nanos / 1000000)
  else if nanos % 1000 = 0 then '.' :: padded 6 (nanos / 1000)
  else '.' :: padded 9 nanos

/-- The day of an instant on the universal clock. -/
def day (t : Instant) : Day := .ofNumber (t.seconds / 86400)

/-- The seconds since the beginning of the day. -/
def inDay (t : Instant) : Nat := (t.seconds % 86400).toNat

/-- The time of the day as it is written. -/
def clockText (t : Instant) : List Char :=
  let leap := if t.nanos < 1000000000 then 0 else 1
  padded 2 (t.inDay / 3600) ++ ':' :: padded 2 (t.inDay / 60 % 60) ++
    ':' :: padded 2 (t.inDay % 60 + leap) ++ fractionText (t.nanos - leap * 1000000000)

/-- An instant **as it is written**. -/
def text (t : Instant) : String :=
  String.ofList (dayText t.day ++ 'T' :: t.clockText ++ ['Z'])

/-! ## Reading -/

/-- Why a text is **no timestamp**. -/
inductive Fault where
  | outOfRange
  | impossible
  | invalid
  | tooShort
  | tooLong
  deriving DecidableEq, Repr

/-- The words for a fault. -/
def Fault.message : Fault → String
  | outOfRange => "input is out of range"
  | impossible => "no possible date and time matching input"
  | invalid => "input contains invalid characters"
  | tooShort => "premature end of input"
  | tooLong => "trailing input"

/-- Reads a number of at least one digit and at most `width`, which may be no more than `high`. -/
def readDigits (width high : Nat) (cs : List Char) : Except Fault (Nat × List Char) :=
  match cs with
  | [] => .error .tooShort
  | c :: _ =>
    if c.isDigit then
      let digits := (cs.take width).takeWhile Char.isDigit
      let n := Nat.ofDigitChars 10 digits 0
      if n ≤ high then .ok (n, cs.drop digits.length) else .error .outOfRange
    else .error .invalid

/-- Reads a number of one or two digits, from `low` to `high`, with blanks before it. -/
def readField (low high : Nat) (cs : List Char) : Except Fault (Nat × List Char) := do
  let (n, rest) ← readDigits 2 high (cs.dropWhile Text.isBlank)
  if low ≤ n then return (n, rest) else throw .outOfRange

/-- Reads a year, with blanks before it. Only a year with a sign may have more than four digits. -/
def readYear (cs : List Char) : Except Fault (Int × List Char) :=
  match cs.dropWhile Text.isBlank with
  | '-' :: rest => do
    let (n, left) ← readDigits rest.length 2147483648 rest
    return (-n, left)
  | '+' :: rest => do
    let (n, left) ← readDigits rest.length 2147483647 rest
    return (n, left)
  | rest => do
    let (n, left) ← readDigits 4 9999 rest
    return (n, left)

/-- Passes the mark `mark`, with blanks before it. -/
def passMark (mark : Char) (cs : List Char) : Except Fault (List Char) :=
  match cs.dropWhile Text.isBlank with
  | [] => .error .tooShort
  | c :: rest => if c = mark then .ok rest else .error .invalid

/-- Reads a date. -/
def readDate (cs : List Char) : Except Fault (Day × List Char) := do
  let (year, cs) ← readYear cs
  let (month, cs) ← readField 1 12 (← passMark '-' cs)
  let (day, cs) ← readField 1 31 (← passMark '-' cs)
  return (⟨year, month, day⟩, cs)

/-- Passes what stands between date and time: a `T` or a space. -/
def passJoint : List Char → Except Fault (List Char)
  | [] => .error .tooShort
  | c :: rest => if c = 'T' ∨ c = 't' ∨ c = ' ' then .ok rest else .error .invalid

/-- Reads the decimals of a second as nanoseconds. Decimals behind the ninth are passed. -/
def readFraction : List Char → Except Fault (Nat × List Char)
  | '.' :: cs => do
    let (n, rest) ← readDigits 9 999999999 cs
    return (n * Decimal.tenTo (9 - (cs.length - rest.length)), rest.dropWhile Char.isDigit)
  | cs => .ok (0, cs)

/-- Reads the time of a day: the seconds before it, and the nanoseconds. -/
def readClock (cs : List Char) : Except Fault ((Nat × Nat) × List Char) := do
  let (hour, cs) ← readField 0 23 cs
  let (minute, cs) ← readField 0 59 (← passMark ':' cs)
  let (second, cs) ← readField 0 60 (← passMark ':' cs)
  let (nanos, cs) ← readFraction cs
  let leap := if second < 60 then 0 else 1
  return ((hour * 3600 + minute * 60 + (second - leap), nanos + leap * 1000000000), cs)

/-- Reads two digits, of which the first may be at most `most`. -/
def readPair (most : Char) : List Char → Except Fault (Nat × List Char)
  | a :: b :: rest =>
    if a.isDigit ∧ b.isDigit then
      if a ≤ most then .ok (Nat.ofDigitChars 10 [a, b] 0, rest) else .error .outOfRange
    else .error .invalid
  | [c] => if c.toNat < 0x80 then .error .tooShort else .error .invalid
  | [] => .error .tooShort

/-- Whether a character may stand between the hours and the minutes of an offset. -/
def isOffsetGap (c : Char) : Bool := c == ':' || Text.isBlank c

/-- Reads hours and minutes of an offset, as seconds. -/
def readOffsetSize (cs : List Char) : Except Fault (Nat × List Char) := do
  let (hours, cs) ← readPair '9' cs
  let (minutes, cs) ← readPair '5' (cs.dropWhile isOffsetGap)
  return (hours * 3600 + minutes * 60, cs)

/-- Reads by how much the clock is ahead of the universal one, in seconds, with blanks before it. -/
def readOffset (cs : List Char) : Except Fault (Int × List Char) :=
  match cs.dropWhile Text.isBlank with
  | [] => .error .tooShort
  | c :: rest =>
    if ((c :: rest).take 3).map Char.toUpper = ['U', 'T', 'C'] then .ok (0, rest.drop 2)
    else if c = 'Z' ∨ c = 'z' then .ok (0, rest)
    else if c = '+' then do
      let (size, rest) ← readOffsetSize rest
      return (size, rest)
    else if c = '-' ∨ c = '−' then do
      let (size, rest) ← readOffsetSize rest
      return (-size, rest)
    else .error .invalid

/-- The first day that can be told. -/
def firstDay : Day := ⟨-262143, 1, 1⟩

/-- The last day that can be told. -/
def lastDay : Day := ⟨262142, 12, 31⟩

/-- Whether a day can be told. -/
def isTold (d : Day) : Bool :=
  firstDay.year ≤ d.year && d.year ≤ lastDay.year && Calendar.isDay d.year d.month d.day

/-- The instant at which a clock that is ahead by `offset` seconds shows a day and a time. -/
def ofClock (d : Day) (inDay nanos : Nat) (offset : Int) : Except Fault Instant :=
  if isTold d ∧ offset.natAbs < 86400 then
    let seconds := d.number * 86400 + inDay - offset
    if firstDay.number ≤ seconds / 86400 ∧ seconds / 86400 ≤ lastDay.number then
      .ok ⟨seconds, nanos⟩
    else .error .impossible
  else .error .outOfRange

/-- **Reads a timestamp.** -/
def read? (s : String) : Except Fault Instant := do
  let (date, cs) ← readDate s.toList
  let ((inDay, nanos), cs) ← readClock (← passJoint cs)
  let (offset, cs) ← readOffset cs
  if cs.all Text.isBlank then ofClock date inDay nanos offset else throw .tooLong

end RecordRelay.Instant
