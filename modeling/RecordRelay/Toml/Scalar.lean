import RecordRelay.Calendar.Date
import RecordRelay.Decimal.Power
import RecordRelay.Toml.Text

/-!
# TOML scalars

A scalar other than a string is a run of letters, digits and a few signs, and its form alone says
what it is: a truth value, a whole number in decimal or, behind a mark, in another base, a number
with a fraction or an exponent, a date or a time. Underscores may stand between digits. A whole
number has at most 64 bits.
-/

namespace RecordRelay.Toml

/-- The number that the characters write in a base, in front of which `acc` is already read;
`afterDigit` says whether the character before was a digit. -/
def readDigits? (base : Nat) (acc : Nat) (afterDigit : Bool) : List Char → Option Nat
  | [] => if afterDigit then some acc else none
  | c :: rest =>
    if c = '_' then if afterDigit then readDigits? base acc false rest else none
    else match hexValue? c with
      | some d => if d < base then readDigits? base (base * acc + d) true rest else none
      | none => none

/-- The number that digits with underscores between them write in a base. -/
def digits? (base : Nat) (text : List Char) : Option Nat := readDigits? base 0 false text

/-- A sign in front of a number: whether it is a minus, and what follows. -/
def sign : List Char → Bool × List Char
  | '-' :: rest => (true, rest)
  | '+' :: rest => (false, rest)
  | text => (false, text)

/-- The number that decimal digits without a leading zero write. -/
def decimal? (text : List Char) : Option Nat :=
  if text.head? = some '0' ∧ text.length ≠ 1 then none else digits? 10 text

/-- A whole number, if it has at most 64 bits. -/
def bounded? (n : Int) : Option Value :=
  if -9223372036854775808 ≤ n ∧ n ≤ 9223372036854775807 then some (.integer n) else none

/-- Reads a **whole number**. -/
def integer? : List Char → Option Value
  | '0' :: 'x' :: rest => do bounded? (← digits? 16 rest)
  | '0' :: 'o' :: rest => do bounded? (← digits? 8 rest)
  | '0' :: 'b' :: rest => do bounded? (← digits? 2 rest)
  | text => do
    let n ← decimal? (sign text).2
    bounded? (if (sign text).1 then -n else n)

/-- A digit or an underscore. -/
def isDigitOrBar (c : Char) : Bool := c.isDigit || c == '_'

/-- The exponent behind a number, zero if there is none. -/
def exponent? : List Char → Option Int
  | [] => some 0
  | c :: rest =>
    if c = 'e' ∨ c = 'E' then do
      let n ← digits? 10 (sign rest).2
      some (if (sign rest).1 then -n else n)
    else none

/-- The binary64 number `digits · 10 ^ exponent`, rounded to nearest. -/
def floatOf (digits : Nat) (exponent : Int) : Float :=
  let magnitude : Int := (toString digits).length + exponent
  if digits = 0 ∨ magnitude < -330 then 0.0
  else if 310 < magnitude then 1.0 / 0.0
  else Float.ofScientific digits (exponent < 0) exponent.natAbs

/-- Reads a **number with a fraction or an exponent**; one that is too large is refused, unless it
is negative. -/
def floating? (text : List Char) : Option Value := do
  let (negative, text) := sign text
  let magnitude ←
    if text = ['i', 'n', 'f'] then some (1.0 / 0.0)
    else if text = ['n', 'a', 'n'] then some (0.0 / 0.0)
    else do
      let whole := text.takeWhile isDigitOrBar
      let n ← decimal? whole
      let x ← match text.dropWhile isDigitOrBar with
        | '.' :: rest => do
          let fraction := rest.takeWhile isDigitOrBar
          let f ← digits? 10 fraction
          let places := fraction.countP Char.isDigit
          let e ← exponent? (rest.dropWhile isDigitOrBar)
          some (floatOf (n * Decimal.tenTo places + f) (e - places))
        | [] => none
        | rest => do some (floatOf n (← exponent? rest))
      if x.isInf ∧ ¬ negative then none else some x
  some (.floating (if negative then -magnitude else magnitude))

/-- Takes exactly `width` digits. -/
def takeFixed? (width : Nat) (text : List Char) : Option (Nat × List Char) := do
  let taken := text.take width
  if taken.length = width ∧ taken.all Char.isDigit then
    some (← digits? 10 taken, text.drop width)
  else none

/-- Takes one given character. -/
def takeChar? (c : Char) : List Char → Option (List Char)
  | [] => none
  | d :: rest => if d = c then some rest else none

/-- Takes hours and minutes. -/
def takeClock? (text : List Char) : Option (List Char) := do
  let (hour, text) ← takeFixed? 2 text
  let (minute, text) ← takeFixed? 2 (← takeChar? ':' text)
  if hour ≤ 23 ∧ minute ≤ 59 then some text else none

/-- Takes a time of day; a minute may have a leap second. -/
def takeTime? (text : List Char) : Option (List Char) := do
  let (second, text) ← takeFixed? 2 (← takeChar? ':' (← takeClock? text))
  if 60 < second then none
  else match text with
    | '.' :: rest =>
      if (rest.takeWhile Char.isDigit).isEmpty then none else some (rest.dropWhile Char.isDigit)
    | text => some text

/-- Takes a day of the calendar. -/
def takeDate? (text : List Char) : Option (List Char) := do
  let (year, text) ← takeFixed? 4 text
  let (month, text) ← takeFixed? 2 (← takeChar? '-' text)
  let (day, text) ← takeFixed? 2 (← takeChar? '-' text)
  if Calendar.isDay year month day then some text else none

/-- Whether a text is an offset from universal time, or nothing. -/
def isOffset : List Char → Bool
  | [] | ['Z'] | ['z'] => true
  | c :: rest => (c == '+' || c == '-') && takeClock? rest == some []

/-- Whether a text is a date, a time, or both. -/
def isDatetime (text : List Char) : Bool :=
  match takeDate? text with
  | some [] => true
  | some (c :: rest) =>
    (c == 'T' || c == 't' || c == ' ') && ((takeTime? rest).elim false isOffset)
  | none => takeTime? text == some []

/-- The scalar that a run of characters is. -/
def scalarOf? (text : List Char) : Option Value :=
  if text = ['t', 'r', 'u', 'e'] then some (.boolean true)
  else if text = ['f', 'a', 'l', 's', 'e'] then some (.boolean false)
  else if isDatetime text then some .datetime
  else floating? text <|> integer? text

/-- A character in the run of a scalar. -/
def isScalarChar (c : Char) : Bool :=
  c.isAlphanum || c == '+' || c == '-' || c == '.' || c == ':' || c == '_'

/-- The length of the run that a text begins with; behind a date it goes on beyond one space. -/
def runLength (text : List Char) : Nat :=
  let run := text.takeWhile isScalarChar
  match takeDate? run, text.drop run.length with
  | some [], ' ' :: rest =>
    let time := rest.takeWhile isScalarChar
    if time.isEmpty then run.length else run.length + 1 + time.length
  | _, _ => run.length

/-- Reads a **scalar** other than a string. -/
def readScalar? (text : List Char) : Option (Read Value text) := do
  let n := runLength text
  let v ← scalarOf? (text.take n)
  if h : 0 < n ∧ 0 < text.length then some ⟨v, text.drop n, by rw [List.length_drop]; omega⟩ else none

end RecordRelay.Toml
