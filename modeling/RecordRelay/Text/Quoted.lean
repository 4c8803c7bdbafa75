import RecordRelay.Text.Extender
import RecordRelay.Text.Hex
import RecordRelay.Text.Unprintable

/-!
# Quoted texts

A text shown inside a message stands between double quotes and is written so that every character
can be told apart by eye: quote, backslash and the common controls have short escapes, and a
character that combines with its neighbour or leaves no mark is written by its code point, as
`\u{301}`.
-/

namespace RecordRelay.Text

/-- One character of a quoted text. -/
def escaped (c : Char) : String :=
  match c with
  | '\x00' => "\\0"
  | '\t' => "\\t"
  | '\r' => "\\r"
  | '\n' => "\\n"
  | '"' => "\\\""
  | '\\' => "\\\\"
  | c =>
    if 0x20 ≤ c.toNat ∧ c.toNat < 0x7F then c.toString
    else if isExtender c || isUnprintable c then "\\u\x7b" ++ hexDigits c.toNat ++ "\x7d"
    else c.toString

/-- A text **between double quotes**, each character escaped where it has to be. -/
def quoted (s : String) : String :=
  "\"" ++ String.join (s.toList.map escaped) ++ "\""

end RecordRelay.Text
