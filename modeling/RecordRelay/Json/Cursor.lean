import RecordRelay.Bytes

/-!
# Reading a text octet by octet

A **cursor** is what is left of a text together with how far reading has come, so that a
complaint can name its line and column. Lines count from one; the column is the number of octets
taken in the current line.

A reader never gives octets back: its result, a `Read`, carries the proof that what is left is no
longer than what there was. Loops that take an octet before they read therefore end.
-/

namespace RecordRelay.Json

/-- A place in a text. -/
structure Position where
  /-- Lines begun, from one. -/
  line : Nat
  /-- Octets taken in this line. -/
  column : Nat
  deriving DecidableEq, Repr

/-- The place after one more octet. -/
def Position.after (p : Position) (b : UInt8) : Position :=
  if b = 0x0A then ⟨p.line + 1, 0⟩ else ⟨p.line, p.column + 1⟩

/-- What is left of a text, and the place reached in it. -/
structure Cursor where
  /-- The octets not yet taken. -/
  rest : Bytes
  /-- The place reached. -/
  position : Position
  deriving DecidableEq, Repr

namespace Cursor

/-- At the beginning of a text. -/
def start (text : Bytes) : Cursor := ⟨text, ⟨1, 0⟩⟩

/-- The octet to be taken next. -/
def peek? (c : Cursor) : Option UInt8 := c.rest.head?

/-- One octet further; at the end of the text nothing changes. -/
def next (c : Cursor) : Cursor :=
  match c.rest with
  | [] => c
  | b :: rest => ⟨rest, c.position.after b⟩

/-- The place of the octet to be taken next, named as if it were taken. -/
def peekPosition (c : Cursor) : Position := c.next.position

theorem next_le (c : Cursor) : c.next.rest.length ≤ c.rest.length := by
  unfold next
  split <;> simp_all

theorem next_lt {c : Cursor} {b : UInt8} (h : c.peek? = some b) :
    c.next.rest.length < c.rest.length := by
  unfold peek? at h
  unfold next
  split <;> simp_all

end Cursor

/-- The **result of a reader** started at `c`. -/
structure Read (α : Type) (c : Cursor) where
  /-- What was read. -/
  value : α
  /-- What is left. -/
  left : Cursor
  /-- Nothing is given back. -/
  left_le : left.rest.length ≤ c.rest.length

namespace Read

/-- Reads nothing. -/
def here (value : α) (c : Cursor) : Read α c := ⟨value, c, Nat.le_refl _⟩

/-- Takes the next octet, whatever it is. -/
def step (value : α) (c : Cursor) : Read α c := ⟨value, c.next, c.next_le⟩

/-- The same result seen from an earlier cursor. -/
def since {c d : Cursor} (r : Read α d) (h : d.rest.length ≤ c.rest.length) : Read α c :=
  ⟨r.value, r.left, Nat.le_trans r.left_le h⟩

/-- The same octets with another value. -/
def map {c : Cursor} (f : α → β) (r : Read α c) : Read β c := ⟨f r.value, r.left, r.left_le⟩

end Read

/-- The octets that may stand between the parts of a text: space, tab, line feed and carriage
return. -/
def isSpace (b : UInt8) : Bool := b == 0x20 || b == 0x09 || b == 0x0A || b == 0x0D

namespace Cursor

/-- Past the octets at the front that satisfy `p`. -/
def skipWhile (p : UInt8 → Bool) : (rest : Bytes) → (position : Position) → Cursor
  | [], position => ⟨[], position⟩
  | b :: rest, position =>
    if p b then skipWhile p rest (position.after b) else ⟨b :: rest, position⟩

theorem skipWhile_le (p : UInt8 → Bool) (rest : Bytes) (position : Position) :
    (skipWhile p rest position).rest.length ≤ rest.length := by
  induction rest generalizing position with
  | nil => simp [skipWhile]
  | cons b rest ih =>
    unfold skipWhile
    split
    · exact Nat.le_trans (ih _) (Nat.le_succ _)
    · simp

/-- Past **spaces**. -/
def spaces (c : Cursor) : Cursor := skipWhile isSpace c.rest c.position

theorem spaces_le (c : Cursor) : c.spaces.rest.length ≤ c.rest.length :=
  skipWhile_le ..

/-- No cursor has more left than itself. -/
theorem le_refl (c : Cursor) : c.rest.length ≤ c.rest.length := Nat.le_refl _

/-- Past decimal digits. -/
def digits (c : Cursor) : Cursor :=
  skipWhile (fun b => 0x30 ≤ b && b ≤ 0x39) c.rest c.position

theorem digits_le (c : Cursor) : c.digits.rest.length ≤ c.rest.length :=
  skipWhile_le ..

end Cursor

end RecordRelay.Json
