import RecordRelay.Decimal.Power

/-!
# The shortest decimal of a binary number

A binary64 number is written with the **fewest digits that read back** as the same number, and
among those with the ones nearest to it. The digits are found in exact arithmetic: the number is
`m · 2 ^ q`, and a decimal reads back as it when it lies between the midpoints to its two
neighbours – the midpoints included when `m` is even. For one digit, two digits and so on the two
points of that decimal grid around the number are tried, and the first grid that has a hit wins.
Where both points are hits and equally far, a `Tie` decides.

How the digits are laid out – where a point or an exponent stands – is a matter of the place that
shows them, and is given by a `Layout`, which holds its way with ties too.
-/

namespace RecordRelay.Decimal

/-- A positive binary number, `mantissa · 2 ^ exponent`, with what decides its midpoints. -/
structure Binary where
  /-- The mantissa. -/
  mantissa : Nat
  /-- The power of two. -/
  exponent : Int
  /-- Whether the neighbour below is only half as far as the one above. -/
  narrowBelow : Bool
  deriving DecidableEq, Repr

/-- The positive number with these bits, unless it is zero, infinite or not a number. -/
def Binary.ofBits? (bits : UInt64) : Option Binary :=
  let fraction : Nat := bits.toNat % 4503599627370496
  let biased : Nat := bits.toNat / 4503599627370496 % 2048
  if biased = 2047 then none
  else if biased = 0 then
    if fraction = 0 then none else some ⟨fraction, -1074, false⟩
  else some ⟨4503599627370496 + fraction, Int.ofNat biased - 1075, fraction = 0 && biased != 1⟩

/-- Decimal digits with the power of ten of the last one. -/
structure Digits where
  /-- The digits as one number. -/
  digits : Nat
  /-- The power of ten of the last digit. -/
  exponent : Int
  deriving DecidableEq, Repr

/-- Which of **two decimals equally far** from a number is taken. -/
inductive Tie where
  /-- The one whose last digit is even. -/
  | toEven
  /-- The greater one. -/
  | up
  deriving DecidableEq, Repr

/-- Takes one of the neighbours `below` and `below + 1` on a grid. -/
def Tie.pick (tie : Tie) (below : Nat) : Nat :=
  match tie with
  | toEven => if below % 2 = 0 then below else below + 1
  | up => below + 1

/-- Bounds of the decimals that read back, and the number between them, over one denominator. -/
structure Interval where
  /-- The lower midpoint. -/
  low : Nat
  /-- The number. -/
  value : Nat
  /-- The upper midpoint. -/
  high : Nat
  /-- The denominator of all three. -/
  scale : Nat
  /-- Whether the midpoints themselves read back. -/
  closed : Bool
  deriving DecidableEq, Repr

/-- The interval of a number. -/
def Binary.interval (b : Binary) : Interval :=
  let up := twoTo b.exponent.toNat
  { low := (4 * b.mantissa - (if b.narrowBelow then 1 else 2)) * up
    value := 4 * b.mantissa * up
    high := (4 * b.mantissa + 2) * up
    scale := 4 * twoTo (-b.exponent).toNat
    closed := b.mantissa % 2 = 0 }

namespace Interval

/-- Whether the decimal `d · 10 ^ e` reads back. -/
def contains (i : Interval) (d : Nat) (e : Int) : Bool :=
  let point := d * i.scale * tenTo e.toNat
  let unit := tenTo (-e).toNat
  if i.closed then i.low * unit ≤ point && point ≤ i.high * unit
  else i.low * unit < point && point < i.high * unit

/-- The distance of a decimal from the number, in units that depend on `e` alone. -/
def distance (i : Interval) (d : Nat) (e : Int) : Nat :=
  let point := d * i.scale * tenTo e.toNat
  let value := i.value * tenTo (-e).toNat
  (point - value) + (value - point)

/-- The power of ten of the number's leading digit, searched upwards from `e`. -/
def magnitudeFrom (i : Interval) : (fuel : Nat) → (e : Int) → Int
  | 0, e => e
  | fuel + 1, e =>
    if i.scale * tenTo (e + 1).toNat ≤ i.value * tenTo (-(e + 1)).toNat then
      i.magnitudeFrom fuel (e + 1)
    else e

/-- The power of ten of the number's leading digit. -/
def magnitude (i : Interval) : Int := i.magnitudeFrom 640 (-330)

/-- The nearer of the neighbours `below` and `below + 1` on the grid of step `10 ^ e`. -/
def nearer (i : Interval) (tie : Tie) (below : Nat) (e : Int) : Nat :=
  if i.distance below e < i.distance (below + 1) e then below
  else if i.distance (below + 1) e < i.distance below e then below + 1
  else tie.pick below

/-- The hit on the grid of step `10 ^ e`, if there is one. -/
def hit? (i : Interval) (tie : Tie) (e : Int) : Option Nat :=
  let below := i.value * tenTo (-e).toNat / (i.scale * tenTo e.toNat)
  match i.contains below e, i.contains (below + 1) e with
  | true, true => some (i.nearer tie below e)
  | true, false => some below
  | false, true => some (below + 1)
  | false, false => none

/-- The first hit on the grids from step `10 ^ e` downwards. -/
def firstHit (i : Interval) (tie : Tie) : (fuel : Nat) → (e : Int) → Digits
  | 0, e => ⟨i.value * tenTo (-e).toNat / (i.scale * tenTo e.toNat), e⟩
  | fuel + 1, e =>
    match i.hit? tie e with
    | some d => ⟨d, e⟩
    | none => i.firstHit tie fuel (e - 1)

end Interval

/-- The digits without the zeros at their end. -/
def Digits.stripped : (fuel : Nat) → Digits → Digits
  | 0, d => d
  | fuel + 1, d =>
    if d.digits ≠ 0 ∧ d.digits % 10 = 0 then stripped fuel ⟨d.digits / 10, d.exponent + 1⟩ else d

/-- The **shortest digits** of a positive number. -/
def shortest (b : Binary) (tie : Tie) : Digits :=
  let i := b.interval
  (i.firstHit tie 17 i.magnitude).stripped 20

/-- How a number is laid out as text. -/
structure Layout where
  /-- The least position of the point, counted from the first digit, without an exponent. -/
  leastPoint : Int
  /-- The greatest position of the point without an exponent. -/
  greatestPoint : Int
  /-- What stands before a positive exponent. -/
  exponentSign : String
  /-- Which of two decimals equally far is shown. -/
  tie : Tie

/-- The text of digits under a layout; a whole number keeps one zero behind its point. -/
def Layout.show (l : Layout) (d : Digits) : String :=
  let digits := (toString d.digits).toList
  let point : Int := digits.length + d.exponent
  if point < l.leastPoint ∨ l.greatestPoint < point then
    let head := String.ofList (digits.take 1)
    let tail := String.ofList (digits.drop 1)
    let exponent := point - 1
    head ++ (if tail.isEmpty then "" else "." ++ tail) ++ "e" ++
      (if exponent < 0 then toString exponent else l.exponentSign ++ toString exponent)
  else if point ≤ 0 then
    "0." ++ String.ofList (List.replicate (-point).toNat '0' ++ digits)
  else if point < digits.length then
    String.ofList (digits.take point.toNat) ++ "." ++ String.ofList (digits.drop point.toNat)
  else String.ofList (digits ++ List.replicate (point.toNat - digits.length) '0') ++ ".0"

/-- The text of any binary64 number under a layout. -/
def Layout.showFloat (l : Layout) (x : Float) : String :=
  let bits := x.toBits
  let sign := if bits.toNat / 9223372036854775808 = 1 then "-" else ""
  if x.isNaN then "NaN"
  else if x.isInf then sign ++ "inf"
  else match Binary.ofBits? bits with
    | none => sign ++ "0.0"
    | some b => sign ++ l.show (shortest b l.tie)

end RecordRelay.Decimal
