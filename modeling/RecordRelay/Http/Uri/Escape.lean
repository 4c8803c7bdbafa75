import RecordRelay.Bytes
import RecordRelay.Text.Hex

/-!
# Percent escapes

An address is in ASCII. The octets of any other character, those of controls, and those of marks
that mean something else at their place are each written as a percent sign with two digits.

A percent sign is not escaped itself, so that escapes which are already there stay as they are.
-/

namespace RecordRelay.Uri

/-- The spelling of an octet, in upper case. -/
def percent (b : UInt8) : List Char :=
  let digit (n : Nat) : Char := if n < 10 then Char.ofNat (48 + n) else Char.ofNat (55 + n)
  ['%', digit (b.toNat / 16), digit (b.toNat % 16)]

/-- Whether a character is escaped everywhere. -/
def neverPlain (c : Char) : Bool := c.toNat < 0x20 || 0x7F ≤ c.toNat

/-- A text with controls, characters beyond ASCII and the given marks **escaped**. -/
def escape (marks : List Char) (cs : List Char) : List Char :=
  cs.flatMap fun c =>
    if neverPlain c || marks.contains c then (String.utf8EncodeChar c).flatMap percent else [c]

/-- The marks that are escaped behind a number sign. -/
def fragmentMarks : List Char := " \"<>\x60".toList

/-- The marks that are escaped in a path. -/
def pathMarks : List Char := fragmentMarks ++ "#?\x7b\x7d".toList

/-- The marks that are escaped in a user's name and password. -/
def userMarks : List Char := pathMarks ++ "/:;=@[\\]^|".toList

/-- The marks that are escaped behind a question mark. -/
def queryMarks : List Char := " \"#<>".toList

/-- Octets with every escape **undone**. -/
def unescape : List Char → Bytes
  | [] => []
  | '%' :: a :: b :: rest =>
    match Text.hexCharValue? a, Text.hexCharValue? b with
    | some m, some n => (m * 16 + n).toUInt8 :: unescape rest
    | _, _ => 37 :: unescape (a :: b :: rest)
  | c :: rest => String.utf8EncodeChar c ++ unescape rest
termination_by cs => cs.length

end RecordRelay.Uri
