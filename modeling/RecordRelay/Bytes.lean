/-!
# Octet strings

Bodies, payloads and header values are lists of octets. A text crosses to them through UTF-8, and
`Bytes.text?` is the way back: it refuses exactly the lists that no text encodes to.
-/

namespace RecordRelay

/-- A string of octets, as it stands in a body or a file. -/
abbrev Bytes := List UInt8

namespace Bytes

/-- The UTF-8 **encoding** of a text. -/
def ofString (s : String) : Bytes := s.toList.flatMap String.utf8EncodeChar

/-- The text that `bytes` encode, if they are well-formed UTF-8. -/
def text? (bytes : Bytes) : Option String := String.fromUTF8? bytes.toByteArray

/-- The number of octets of the character that `bytes` begin with, if they begin with one. -/
def charLength? (bytes : Bytes) : Option Nat :=
  [1, 2, 3, 4].find? fun n => (text? (bytes.take n)).isSome

/-- The number of octets of the **whole characters** at the front of `bytes`, up to the first octet
that belongs to none. -/
def textLength : Bytes → Nat
  | [] => 0
  | b :: rest =>
    match charLength? (b :: rest) with
    | none => 0
    | some n => n + textLength (rest.drop (n - 1))
termination_by bytes => bytes.length
decreasing_by
  rw [List.length_drop, List.length_cons]
  omega

theorem toByteArray_ofString (s : String) : (ofString s).toByteArray = s.toByteArray := by
  rw [ofString, ← List.utf8Encode]
  simp

/-- **Decoding undoes encoding.** -/
@[simp]
theorem text?_ofString (s : String) : text? (ofString s) = some s := by
  rw [text?, toByteArray_ofString]
  unfold String.fromUTF8?
  rw [dif_pos s.isValidUTF8]
  rfl

end Bytes

end RecordRelay
