import RecordRelay.Decimal.Shortest
import RecordRelay.Json.Fault

/-!
# Numbers in a JSON text

A number is read into a significand of at most 64 bits and a power of ten; digits that no longer
fit only move the power. A whole number that fits a 64-bit integer stays one, everything else is a
binary64 number, and one too large for that is out of range. `skipNumber` checks the same grammar
without the arithmetic.
-/

namespace RecordRelay.Json

/-- A number as read. -/
inductive Number where
  /-- A whole number in the range of 64-bit integers. -/
  | integer (value : Int)
  /-- Any other number. -/
  | floating (value : Float)

/-- In messages a number has an exponent from ten to the sixteenth on and below a hundred
thousandth, a positive exponent has its sign, and of two decimals equally far the even one is
shown. -/
def messageLayout : Decimal.Layout := ⟨-4, 16, "+", .toEven⟩

/-- What a message says was found. -/
def Number.found : Number → Found
  | integer value => .integer value
  | floating value => .floating (messageLayout.showFloat value)

/-- Whether an octet is a decimal digit. -/
def isDigit (b : UInt8) : Bool := 0x30 ≤ b && b ≤ 0x39

/-- The value of a digit. -/
def digitValue (b : UInt8) : Nat := b.toNat - 0x30

/-- Digits taken into a number. -/
structure Taken where
  /-- The number. -/
  value : Nat
  /-- How many digits were taken. -/
  count : Nat
  /-- What is left. -/
  left : Cursor

/-- Takes digits into `value` as long as it does not exceed `bound`. -/
def takeDigits (bound value count : Nat) : Bytes → Position → Taken
  | [], position => ⟨value, count, ⟨[], position⟩⟩
  | b :: rest, position =>
    if isDigit b ∧ value * 10 + digitValue b ≤ bound then
      takeDigits bound (value * 10 + digitValue b) (count + 1) rest (position.after b)
    else ⟨value, count, ⟨b :: rest, position⟩⟩

theorem takeDigits_le (bound value count : Nat) (rest : Bytes) (position : Position) :
    (takeDigits bound value count rest position).left.rest.length ≤ rest.length := by
  induction rest generalizing value count position with
  | nil => simp [takeDigits]
  | cons b rest ih =>
    unfold takeDigits
    split
    · exact Nat.le_trans (ih ..) (Nat.le_succ _)
    · simp

/-- The greatest significand. -/
def maxSignificand : Nat := 18446744073709551615

/-- The greatest exponent that is read as a number. -/
def maxExponent : Nat := 2147483647

/-- Whether the octet to be taken next satisfies `p`. -/
def Cursor.nextIs (c : Cursor) (p : UInt8 → Bool) : Bool :=
  match c.peek? with
  | some b => p b
  | none => false

/-- One octet further if that octet satisfies `p`. -/
def Cursor.nextIf (c : Cursor) (p : UInt8 → Bool) : Cursor := if c.nextIs p then c.next else c

theorem Cursor.nextIf_le (c : Cursor) (p : UInt8 → Bool) :
    (c.nextIf p).rest.length ≤ c.rest.length := by
  unfold nextIf
  split
  · exact c.next_le
  · exact Nat.le_refl _

/-- Whether an octet begins an exponent. -/
def isExponentMark (b : UInt8) : Bool := b == 0x65 || b == 0x45

/-- A power of ten that binary64 can hold. -/
def powerOfTen (n : Nat) : Float := Float.ofScientific 1 false n

/-- `x · 10 ^ exponent`, computed in binary64 with one rounding wherever the power itself is a
binary64 number; nothing if the result is too large. -/
def scale? (x : Float) (exponent : Int) : Option Float :=
  if 0 ≤ exponent then
    if exponent ≤ 308 then
      let y := x * powerOfTen exponent.toNat
      if y.isInf then none else some y
    else if x == 0 then some x else none
  else if -308 ≤ exponent then some (x / powerOfTen (-exponent).toNat)
  else if x == 0 then some x
  else scale? (x / powerOfTen 308) (exponent + 308)
termination_by (-exponent).toNat

/-- The number of a significand and a power of ten, read up to `c`. -/
def assemble (negative : Bool) (significand : Nat) (exponent : Int) (c : Cursor) :
    Except Error Float :=
  match scale? significand.toUInt64.toFloat exponent with
  | some x => .ok (if negative then -x else x)
  | none => c.fail .numberOutOfRange

/-- Reads an exponent from its mark on, and with it completes the number. -/
def readExponent (negative : Bool) (significand : Nat) (exponent : Int) (c : Cursor) :
    Except Error (Read Float c) :=
  let marked := c.next
  let below := marked.nextIs (· == 0x2D)
  let signed := marked.nextIf fun b => b == 0x2B || b == 0x2D
  have signed_le : signed.rest.length ≤ c.rest.length :=
    Nat.le_trans (marked.nextIf_le _) c.next_le
  match signed.peek? with
  | none => signed.fail .endInValue
  | some b =>
    if isDigit b then
      let first := signed.next
      let taken := takeDigits maxExponent (digitValue b) 1 first.rest first.position
      have taken_le : taken.left.rest.length ≤ c.rest.length :=
        Nat.le_trans (takeDigits_le ..) (Nat.le_trans signed.next_le signed_le)
      if taken.left.nextIs isDigit then
        if significand ≠ 0 ∧ ¬ below then taken.left.next.fail .numberOutOfRange
        else
          .ok ⟨if negative then -0.0 else 0.0, taken.left.digits,
            Nat.le_trans (Cursor.digits_le _) taken_le⟩
      else
        let total := if below then exponent - taken.value else exponent + taken.value
        match assemble negative significand total taken.left with
        | .ok x => .ok ⟨x, taken.left, taken_le⟩
        | .error e => .error e
    else signed.next.fail .invalidNumber

/-- Completes a number whose digits are all read: an exponent may follow. -/
def finish (negative : Bool) (significand : Nat) (exponent : Int) (c : Cursor) :
    Except Error (Read Float c) :=
  if c.nextIs isExponentMark then readExponent negative significand exponent c
  else match assemble negative significand exponent c with
    | .ok x => .ok (.here x c)
    | .error e => .error e

/-- Reads a fraction from its point on, and what may follow it. -/
def readFraction (negative : Bool) (significand : Nat) (exponent : Int) (c : Cursor) :
    Except Error (Read Float c) :=
  let point := c.next
  let taken := takeDigits maxSignificand significand 0 point.rest point.position
  have taken_le : taken.left.rest.length ≤ c.rest.length :=
    Nat.le_trans (takeDigits_le ..) c.next_le
  if taken.left.nextIs isDigit then
    match finish negative taken.value (exponent - taken.count) taken.left.digits with
    | .ok r => .ok (r.since (Nat.le_trans (Cursor.digits_le _) taken_le))
    | .error e => .error e
  else if taken.count = 0 then
    match taken.left.peek? with
    | some _ => taken.left.failNext .invalidNumber
    | none => taken.left.failNext .endInValue
  else
    match finish negative taken.value (exponent - taken.count) taken.left with
    | .ok r => .ok (r.since taken_le)
    | .error e => .error e

/-- Reads what follows the whole part of a number. -/
def readTail (negative : Bool) (significand : Nat) (exponent : Int) (c : Cursor) :
    Except Error (Read Float c) :=
  if c.nextIs (· == 0x2E) then readFraction negative significand exponent c
  else finish negative significand exponent c

/-- A whole number with its sign. -/
def Number.whole (negative : Bool) (significand : Nat) : Number :=
  if negative then
    if 1 ≤ significand ∧ significand ≤ 9223372036854775808 then .integer (-significand)
    else .floating (-significand.toUInt64.toFloat)
  else .integer significand

/-- Reads what follows the digits of a whole part that fits. -/
def readWhole (negative : Bool) (significand : Nat) (c : Cursor) :
    Except Error (Read Number c) :=
  if c.nextIs fun b => b == 0x2E || isExponentMark b then
    match readTail negative significand 0 c with
    | .ok r => .ok (r.map .floating)
    | .error e => .error e
  else .ok (.here (.whole negative significand) c)

/-- **Reads a number** whose first digit, already taken, is `b`. -/
def readNumber (negative : Bool) (b : UInt8) (c : Cursor) : Except Error (Read Number c) :=
  if b == 0x30 then
    if c.nextIs isDigit then c.failNext .invalidNumber else readWhole negative 0 c
  else if isDigit b then
    let taken := takeDigits maxSignificand (digitValue b) 1 c.rest c.position
    have taken_le : taken.left.rest.length ≤ c.rest.length := takeDigits_le ..
    if taken.left.nextIs isDigit then
      let dropped := taken.left.digits
      match readTail negative taken.value (taken.left.rest.length - dropped.rest.length : Nat)
          dropped with
      | .ok r => .ok ((r.map .floating).since (Nat.le_trans (Cursor.digits_le _) taken_le))
      | .error e => .error e
    else match readWhole negative taken.value taken.left with
      | .ok r => .ok (r.since taken_le)
      | .error e => .error e
  else c.fail .invalidNumber

/-- Reads a number whose minus sign is already taken. -/
def readNegative (c : Cursor) : Except Error (Read Number c) :=
  match c.peek? with
  | none => c.fail .endInValue
  | some b => do return (← readNumber true b c.next).since c.next_le

/-- Passes an exponent from its mark on. -/
def skipExponent (c : Cursor) : Except Error (Read Unit c) :=
  let marked := c.next
  let signed := marked.nextIf fun b => b == 0x2B || b == 0x2D
  have signed_le : signed.rest.length ≤ c.rest.length :=
    Nat.le_trans (marked.nextIf_le _) c.next_le
  if signed.nextIs isDigit then
    .ok ⟨(), signed.digits, Nat.le_trans (Cursor.digits_le _) signed_le⟩
  else signed.next.fail .invalidNumber

/-- Passes what may follow the digits of a number: an exponent. -/
def skipFinish (c : Cursor) : Except Error (Read Unit c) :=
  if c.nextIs isExponentMark then skipExponent c else .ok (.here () c)

/-- Passes a fraction from its point on, and what may follow it. -/
def skipFraction (c : Cursor) : Except Error (Read Unit c) :=
  let point := c.next
  if point.nextIs isDigit then
    match skipFinish point.digits with
    | .ok r => .ok (r.since (Nat.le_trans (Cursor.digits_le _) c.next_le))
    | .error e => .error e
  else point.failNext .invalidNumber

/-- Passes what may follow the whole part of a number. -/
def skipTail (c : Cursor) : Except Error (Read Unit c) :=
  if c.nextIs (· == 0x2E) then skipFraction c else skipFinish c

/-- **Passes a number** whose first digit, already taken, is `b`. -/
def skipNumber (b : UInt8) (c : Cursor) : Except Error (Read Unit c) :=
  if b == 0x30 then
    if c.nextIs isDigit then c.failNext .invalidNumber else skipTail c
  else if isDigit b then
    match skipTail c.digits with
    | .ok r => .ok (r.since c.digits_le)
    | .error e => .error e
  else c.fail .invalidNumber

end RecordRelay.Json
