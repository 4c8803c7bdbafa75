import RecordRelay.Json.Text
import RecordRelay.Json.Number

/-!
# Passing a value

The value of a member that nobody asked for is **passed**: its grammar is checked to the end, but
its strings need not be UTF-8, its numbers may have any size, and it may be nested to any depth.
The open brackets are kept on a stack, so depth costs no recursion.
-/

namespace RecordRelay.Json

/-- Takes the octets of a word, of which the first is taken already. -/
def passLiteral : (word : Bytes) → (c : Cursor) → Except Error (Read Unit c)
  | [], c => .ok (.here () c)
  | w :: word, c =>
    match c.peek? with
    | none => c.fail .endInValue
    | some b =>
      if b == w then
        match passLiteral word c.next with
        | .ok r => .ok (r.since c.next_le)
        | .error e => .error e
      else c.next.fail .expectedLiteral

/-- The rest of `null`. -/
def nullTail : Bytes := [0x75, 0x6C, 0x6C]

/-- The rest of `true`. -/
def trueTail : Bytes := [0x72, 0x75, 0x65]

/-- The rest of `false`. -/
def falseTail : Bytes := [0x61, 0x6C, 0x73, 0x65]

/-- An open bracket. -/
inductive Bracket where
  /-- The bracket of an array. -/
  | list
  /-- The bracket of an object. -/
  | object
  deriving DecidableEq, Repr

/-- The octet that closes a bracket. -/
def Bracket.closing : Bracket → UInt8
  | list => 0x5D
  | object => 0x7D

/-- What is wrong where a bracket is neither closed nor followed by a comma. -/
def Bracket.unclosed : Bracket → Fault
  | list => .expectedListEnd
  | object => .expectedObjectEnd

/-- What is wrong where the text ends inside a bracket. -/
def Bracket.atEnd : Bracket → Fault
  | list => .endInList
  | object => .endInObject

/-- Passes a scalar value whose first octet, still to be taken, is `b`. -/
def skipScalar (b : UInt8) (c : Cursor) : Except Error (Read Unit c.next) :=
  if b == 0x6E then passLiteral nullTail c.next
  else if b == 0x74 then passLiteral trueTail c.next
  else if b == 0x66 then passLiteral falseTail c.next
  else if b == 0x2D then
    match c.next.peek? with
    | none => c.next.fail .invalidNumber
    | some digit => do return (← skipNumber digit c.next.next).since c.next.next_le
  else if isDigit b then skipNumber b c.next
  else if b == 0x22 then skipString c.next
  else c.failNext .expectedValue

/-- Passes the name of a member and its colon, if the bracket is an object's. -/
def skipName (bracket : Bracket) (c : Cursor) : Except Error (Read Unit c) :=
  match bracket with
  | .list => .ok (.here () c)
  | .object =>
    let opening := c.spaces
    match opening.peek? with
    | none => opening.failNext .endInObject
    | some b =>
      if b == 0x22 then do
        let name ← skipString opening.next
        let colon := name.left.spaces
        match colon.peek? with
        | none => colon.failNext .endInObject
        | some b =>
          if b == 0x3A then
            return (((Read.step () colon).since name.left.spaces_le).since
              (Nat.le_trans name.left_le (Nat.le_trans opening.next_le c.spaces_le)))
          else colon.failNext .expectedColon
      else opening.failNext .keyNotString

/-- What is due next while a value is passed. -/
inductive Due where
  /-- A value. -/
  | value
  /-- The first item of the bracket opened last, or its end. -/
  | first
  /-- A comma, or the end of the bracket opened last. -/
  | next
  deriving DecidableEq, Repr

/-- How far a `Due` is from the next octet. -/
def Due.rank : Due → Nat
  | value => 0
  | first => 1
  | next => 0

/-- Passes what is due and then whatever the open brackets still ask for. -/
def skipDue {start : Cursor} (due : Due) (brackets : List Bracket) (c : Cursor)
    (le : c.rest.length ≤ start.rest.length) : Except Error (Read Unit start) :=
  have le' := c.spaces_le
  match due, brackets, h : c.spaces.peek? with
  | .value, _, none => c.spaces.failNext .endInValue
  | .value, brackets, some b =>
    have lt := Cursor.next_lt h
    if b == 0x5B then skipDue .first (.list :: brackets) c.spaces.next (by omega)
    else if b == 0x7B then skipDue .first (.object :: brackets) c.spaces.next (by omega)
    else match skipScalar b c.spaces with
      | .error e => .error e
      | .ok r =>
        have := r.left_le
        if brackets.isEmpty then .ok (r.since (by omega))
        else skipDue .next brackets r.left (by omega)
  | _, [], _ => .ok ⟨(), c.spaces, by omega⟩
  | _, bracket :: _, none => c.spaces.failNext bracket.atEnd
  | .first, bracket :: brackets, some b =>
    have lt := Cursor.next_lt h
    if b == bracket.closing then
      if brackets.isEmpty then .ok ((Read.step () c.spaces).since (by omega))
      else skipDue .next brackets c.spaces.next (by omega)
    else match skipName bracket c.spaces with
      | .error e => .error e
      | .ok r =>
        have := r.left_le
        skipDue .value (bracket :: brackets) r.left (by omega)
  | .next, bracket :: brackets, some b =>
    have lt := Cursor.next_lt h
    if b == bracket.closing then
      if brackets.isEmpty then .ok ((Read.step () c.spaces).since (by omega))
      else skipDue .next brackets c.spaces.next (by omega)
    else if b == 0x2C then
      match skipName bracket c.spaces.next with
      | .error e => .error e
      | .ok r =>
        have := r.left_le
        skipDue .value (bracket :: brackets) r.left (by omega)
    else c.spaces.failNext bracket.unclosed
termination_by (c.rest.length, due.rank)
decreasing_by all_goals (simp only [Prod.lex_def, Due.rank]; omega)

/-- **Passes a value.** -/
def skipValue (c : Cursor) : Except Error (Read Unit c) :=
  skipDue .value [] c c.le_refl

end RecordRelay.Json
