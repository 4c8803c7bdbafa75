import RecordRelay.Json.Fault

/-!
# Strings in a JSON text

A string stands between double quotes. Inside it an octet stands for itself unless it is a quote, a
backslash or a control; a backslash starts an escape, of which `\uXXXX` gives a UTF-16 unit and two
of them in a row a character outside the Basic Multilingual Plane.

Three functions speak about this form. `quote` writes it, escaping no more than it must.
`readContents` reads it, from behind the opening quote, and refuses lone surrogates and octets that
are no UTF-8. `skipContents` only looks for the end: it checks the shape of the escapes and refuses
controls, and looks at nothing else.
-/

namespace RecordRelay.Json

/-- The value of a hexadecimal digit. -/
def hexValue? (b : UInt8) : Option Nat :=
  if 0x30 ≤ b ∧ b ≤ 0x39 then some (b.toNat - 0x30)
  else if 0x41 ≤ b ∧ b ≤ 0x46 then some (b.toNat - 0x41 + 10)
  else if 0x61 ≤ b ∧ b ≤ 0x66 then some (b.toNat - 0x61 + 10)
  else none

/-- The **UTF-16 unit** that four hexadecimal digits spell. -/
def unit? (a b c d : UInt8) : Option Nat := do
  return (← hexValue? a) * 0x1000 + (← hexValue? b) * 0x100 + (← hexValue? c) * 0x10 +
    (← hexValue? d)

/-- Reads the four digits of an escape. -/
def readUnit (c : Cursor) : Except Error (Read Nat c) :=
  match h : c.rest with
  | a :: b :: x :: y :: rest =>
    let left : Cursor :=
      ⟨rest, (((c.position.after a).after b).after x).after y⟩
    match unit? a b x y with
    | some unit => .ok ⟨unit, left, by simp [h, left]; omega⟩
    | none => left.fail .invalidEscape
  | _ => (Cursor.skipWhile (fun _ => true) c.rest c.position).fail .endInString

/-- The UTF-8 octets of a code point that is not a surrogate. -/
def codePoint (n : Nat) : Bytes := String.utf8EncodeChar (Char.ofNat n)

/-- The octet that a one-letter escape stands for. -/
def escape? (b : UInt8) : Option UInt8 :=
  if b == 0x22 || b == 0x5C || b == 0x2F then some b
  else if b == 0x62 then some 0x08
  else if b == 0x66 then some 0x0C
  else if b == 0x6E then some 0x0A
  else if b == 0x72 then some 0x0D
  else if b == 0x74 then some 0x09
  else none

/-- Takes the octet `b`, which has to follow the first unit of a pair. -/
def expectInPair (b : UInt8) (c : Cursor) : Except Error (Read Unit c) :=
  match c.peek? with
  | none => c.fail .endInString
  | some found => if found == b then .ok (.step () c) else c.next.fail .endOfEscape

/-- Reads the rest of a pair whose first unit is `high`. -/
def readPair (high : Nat) (c : Cursor) : Except Error (Read Bytes c) := do
  let backslash ← expectInPair 0x5C c
  let letter ← expectInPair 0x75 backslash.left
  let low ← readUnit letter.left
  if 0xDC00 ≤ low.value ∧ low.value ≤ 0xDFFF then
    let n := (high - 0xD800) * 0x400 + (low.value - 0xDC00) + 0x10000
    return ((low.since letter.left_le).since backslash.left_le).map fun _ => codePoint n
  else
    low.left.fail .loneSurrogate

/-- Reads an escape from behind its backslash: the octets that it stands for. -/
def readEscape (c : Cursor) : Except Error (Read Bytes c) :=
  match c.peek? with
  | none => c.fail .endInString
  | some b =>
    if b == 0x75 then do
      let unit ← readUnit c.next
      if 0xDC00 ≤ unit.value ∧ unit.value ≤ 0xDFFF then
        unit.left.fail .loneSurrogate
      else if 0xD800 ≤ unit.value ∧ unit.value ≤ 0xDBFF then do
        let pair ← readPair unit.value unit.left
        return (pair.since unit.left_le).since c.next_le
      else
        return (unit.since c.next_le).map fun n => codePoint n
    else match escape? b with
      | some value => .ok (.step [value] c)
      | none => c.next.fail .invalidEscape

/-- Reads **the contents of a string** up to and with the closing quote. The octets read so far
are handed on in reverse, and all that was taken since `start` counts as read. -/
def readOctets {start : Cursor} (reversed : Bytes) (c : Cursor)
    (le : c.rest.length ≤ start.rest.length) : Except Error (Read Bytes start) :=
  match h : c.peek? with
  | none => c.fail .endInString
  | some b =>
    have lt := Cursor.next_lt h
    if b == 0x22 then .ok ((Read.step reversed.reverse c).since le)
    else if b == 0x5C then
      match readEscape c.next with
      | .error e => .error e
      | .ok escape =>
        have := escape.left_le
        readOctets (escape.value.reverse ++ reversed) escape.left (by omega)
    else if b < 0x20 then c.next.fail .controlCharacter
    else readOctets (b :: reversed) c.next (by omega)
termination_by c.rest.length
decreasing_by all_goals omega

/-- The place of octets that are no text, once the string is read up to `closed`: as many columns
before its end as octets are left from the first stray one on, escapes counted undone. -/
def strayPlace (octets : Bytes) (closed : Position) : Position :=
  ⟨closed.line, closed.column - (octets.length - octets.textLength)⟩

/-- Reads a string from behind its opening quote. -/
def readContents (c : Cursor) : Except Error (Read String c) := do
  let octets ← readOctets [] c c.le_refl
  match Bytes.text? octets.value with
  | some s => return octets.map fun _ => s
  | none => .error ⟨.invalidCodePoint, strayPlace octets.value octets.left.position⟩

/-- Passes an escape from behind its backslash. -/
def skipEscape (c : Cursor) : Except Error (Read Unit c) :=
  match c.peek? with
  | none => c.fail .endInString
  | some b =>
    if b == 0x75 then do
      let unit ← readUnit c.next
      return (unit.since c.next_le).map fun _ => ()
    else if (escape? b).isSome then .ok (.step () c)
    else c.next.fail .invalidEscape

/-- **Passes a string** from behind its opening quote. -/
def skipContents {start : Cursor} (c : Cursor) (le : c.rest.length ≤ start.rest.length) :
    Except Error (Read Unit start) :=
  match h : c.peek? with
  | none => c.fail .endInString
  | some b =>
    have lt := Cursor.next_lt h
    if b == 0x22 then .ok ((Read.step () c).since le)
    else if b == 0x5C then
      match skipEscape c.next with
      | .error e => .error e
      | .ok escape =>
        have := escape.left_le
        skipContents escape.left (by omega)
    else if b < 0x20 then c.fail .controlCharacter
    else skipContents c.next (by omega)
termination_by c.rest.length
decreasing_by all_goals omega

/-- Passes a string that begins behind this cursor. -/
def skipString (c : Cursor) : Except Error (Read Unit c) := skipContents c c.le_refl

/-- A lower-case hexadecimal digit. -/
def hexDigit (n : Nat) : UInt8 := if n < 10 then 0x30 + n.toUInt8 else 0x57 + n.toUInt8

/-- One character inside a written string. -/
def quoteChar (c : Char) : Bytes :=
  match c with
  | '"' => [0x5C, 0x22]
  | '\\' => [0x5C, 0x5C]
  | '\x08' => [0x5C, 0x62]
  | '\x0C' => [0x5C, 0x66]
  | '\n' => [0x5C, 0x6E]
  | '\r' => [0x5C, 0x72]
  | '\t' => [0x5C, 0x74]
  | c =>
    if c.toNat < 0x20 then
      [0x5C, 0x75, 0x30, 0x30, hexDigit (c.toNat / 16), hexDigit (c.toNat % 16)]
    else String.utf8EncodeChar c

/-- A text as a **written string**, quotes included. -/
def quote (s : String) : Bytes := 0x22 :: s.toList.flatMap quoteChar ++ [0x22]

end RecordRelay.Json
