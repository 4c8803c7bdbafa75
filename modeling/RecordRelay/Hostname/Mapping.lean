import RecordRelay.Hostname.Replacement
import RecordRelay.Text.Unprintable

/-!
# What becomes of a typed character

Each character of a typed hostname is kept, left out, replaced by a text, or it makes the hostname
unusable. Unusable are the characters that cannot be printed, unless a rule says otherwise of them,
and a few that would be taken for others.
-/

namespace RecordRelay.Hostname

/-- The characters that are **left out**: they leave no mark and change nothing. -/
def ignored : List (Nat × Nat) := [
    (0xAD, 0xAD), (0x34F, 0x34F), (0x115F, 0x1160), (0x17B4, 0x17B5), (0x180B, 0x180F),
    (0x200B, 0x200B), (0x2060, 0x2064), (0x206A, 0x206F), (0x3164, 0x3164), (0xFE00, 0xFE0F),
    (0xFEFF, 0xFEFF), (0xFFA0, 0xFFA0), (0x1BCA0, 0x1BCA3), (0x1D173, 0x1D17A),
    (0xE0100, 0xE01EF)]

/-- The characters that can be printed and are **unusable** all the same: those that stand for a
full stop or for a text with one, those that describe ideographs, and replacement characters. -/
def unusable : List (Nat × Nat) := [
    (0x2024, 0x2026), (0x2488, 0x249B), (0x2FF0, 0x2FFF), (0x31EF, 0x31EF), (0x33C2, 0x33C2),
    (0x33C7, 0x33C7), (0x33D8, 0x33D8), (0xFE12, 0xFE12), (0xFE19, 0xFE19), (0xFE30, 0xFE30),
    (0xFE52, 0xFE52), (0xFFFC, 0xFFFD), (0x1F100, 0x1F100)]

/-- Whether a character is one of the two joiners, which are kept though they cannot be printed. -/
def isJoiner (c : Char) : Bool := c == '\u200C' || c == '\u200D'

/-- What becomes of a typed character: the text in its place, or nothing if it is unusable. -/
def mapped? (c : Char) : Option (List Char) :=
  match replacement? c with
  | some text => some text
  | none =>
    if Text.inRanges c.toNat ignored then some []
    else if isJoiner c then some [c]
    else if Text.isUnprintable c || Text.inRanges c.toNat unusable then none
    else some [c]

/-- What becomes of a typed text. -/
def mapAll? (cs : List Char) : Option (List Char) := (cs.mapM mapped?).map List.flatten

/-- Whether a character is kept as it is. -/
def isKept (c : Char) : Bool := mapped? c == some [c]

end RecordRelay.Hostname
