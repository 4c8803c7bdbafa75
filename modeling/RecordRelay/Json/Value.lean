import RecordRelay.Json.Record

/-!
# Any JSON value

`Value.read?` reads a text as one value of any kind. Unlike passing a value it builds what it
reads: strings have to be UTF-8 with paired surrogates, numbers have to be in range, and brackets
may be nested only to a fixed depth.
-/

namespace RecordRelay.Json

/-- A JSON **value**. -/
inductive Value where
  | null
  | boolean (value : Bool)
  | number (value : Number)
  | string (value : String)
  | list (items : List Value)
  | object (members : List (String × Value))

namespace Value

/-- How many brackets may be open at once. -/
def maxDepth : Nat := 127

/-- Behind the mark that ends a list or an object nothing has come back. -/
theorem end_le {start c : Cursor} (le : c.rest.length ≤ start.rest.length) (next : Read Bool c) :
    next.left.rest.length ≤ start.rest.length :=
  Nat.le_trans next.left_le le

/-- Behind an item less is left. -/
theorem item_lt {c : Cursor} {b : UInt8} (next : Read Bool c) (h : next.left.peek? = some b)
    (value : Read Value next.left.next) : value.left.rest.length < c.rest.length :=
  Nat.lt_of_le_of_lt value.left_le (Nat.lt_of_lt_of_le (Cursor.next_lt h) next.left_le)

/-- Behind an item nothing has come back. -/
theorem item_le {start c : Cursor} (le : c.rest.length ≤ start.rest.length) (next : Read Bool c)
    (value : Read Value next.left.next) : value.left.rest.length ≤ start.rest.length :=
  Nat.le_trans value.left_le (Nat.le_trans next.left.next_le (end_le le next))

/-- Behind a member nothing of what followed its name's mark has come back. -/
theorem member_le_name {c : Cursor} (next : Read Bool c) (key : Read String next.left.next)
    (colon : Read Unit key.left) (value : Read Value colon.left.spaces.next) :
    value.left.rest.length ≤ next.left.next.rest.length :=
  Nat.le_trans value.left_le (Nat.le_trans colon.left.spaces.next_le
    (Nat.le_trans colon.left.spaces_le (Nat.le_trans colon.left_le key.left_le)))

/-- Behind a member less is left. -/
theorem member_lt {c : Cursor} {b : UInt8} (next : Read Bool c) (h : next.left.peek? = some b)
    (key : Read String next.left.next) (colon : Read Unit key.left)
    (value : Read Value colon.left.spaces.next) : value.left.rest.length < c.rest.length :=
  Nat.lt_of_le_of_lt (member_le_name next key colon value)
    (Nat.lt_of_lt_of_le (Cursor.next_lt h) next.left_le)

/-- Behind a member nothing has come back. -/
theorem member_le {start c : Cursor} (le : c.rest.length ≤ start.rest.length) (next : Read Bool c)
    (key : Read String next.left.next) (colon : Read Unit key.left)
    (value : Read Value colon.left.spaces.next) :
    value.left.rest.length ≤ start.rest.length :=
  Nat.le_trans (member_le_name next key colon value)
    (Nat.le_trans next.left.next_le (end_le le next))

/-- Reads the items of an array, each by `item`, which is given an item's first octet and the
cursor before it. -/
def readItems {start : Cursor}
    (item : UInt8 → (c : Cursor) → Except Error (Read Value c.next))
    (first : Bool) (reversed : List Value) (c : Cursor)
    (le : c.rest.length ≤ start.rest.length) : Except Error (Read Value start) :=
  match Fields.nextItem first c with
  | .error e => .error e
  | .ok next =>
    match _h : next.left.peek? with
    | none => next.left.failNext .endInList
    | some b =>
      if next.value then
        match item b next.left with
        | .error e => .error e
        | .ok value =>
          readItems item false (value.value :: reversed) value.left (item_le le next value)
      else .ok ((Read.step (.list reversed.reverse) next.left).since (end_le le next))
termination_by c.rest.length
decreasing_by exact item_lt next _h value

/-- Reads the members of an object, each value by `item`. -/
def readMembers {start : Cursor}
    (item : UInt8 → (c : Cursor) → Except Error (Read Value c.next))
    (first : Bool) (reversed : List (String × Value)) (c : Cursor)
    (le : c.rest.length ≤ start.rest.length) : Except Error (Read Value start) :=
  match Fields.nextName first c with
  | .error e => .error e
  | .ok next =>
    match _h : next.left.peek? with
    | none => next.left.failNext .endInObject
    | some _ =>
      if next.value then
        match readContents next.left.next with
        | .error e => .error e
        | .ok key =>
          match Fields.takeColon key.left with
          | .error e => .error e
          | .ok colon =>
            match colon.left.spaces.peek? with
            | none => colon.left.spaces.failNext .endInValue
            | some b =>
              match item b colon.left.spaces with
              | .error e => .error e
              | .ok value =>
                readMembers item false ((key.value, value.value) :: reversed) value.left
                  (member_le le next key colon value)
      else .ok ((Read.step (.object reversed.reverse) next.left).since (end_le le next))
termination_by c.rest.length
decreasing_by exact member_lt next _h key colon value

/-- Reads a value whose first octet, still to be taken, is `b`, with at most `depth` brackets
open at once. -/
def readAt (depth : Nat) (b : UInt8) (c : Cursor) : Except Error (Read Value c.next) :=
  if b == 0x6E then do return (← passLiteral nullTail c.next).map fun _ => .null
  else if b == 0x74 then do return (← passLiteral trueTail c.next).map fun _ => .boolean true
  else if b == 0x66 then do return (← passLiteral falseTail c.next).map fun _ => .boolean false
  else if b == 0x2D then do return (← readNegative c.next).map .number
  else if isDigit b then do return (← readNumber false b c.next).map .number
  else if b == 0x22 then do return (← readContents c.next).map .string
  else if b == 0x5B then
    match depth with
    | 0 => c.failNext .nestedTooDeep
    | depth + 1 => readItems (readAt depth) true [] c.next c.next.le_refl
  else if b == 0x7B then
    match depth with
    | 0 => c.failNext .nestedTooDeep
    | depth + 1 => readMembers (readAt depth) true [] c.next c.next.le_refl
  else c.failNext .expectedValue

/-- Reads a text that is **one value**, with nothing but spaces around it. -/
def read? (text : Bytes) : Except Error Value := do
  let c := (Cursor.start text).spaces
  match c.peek? with
  | none => c.failNext .endInValue
  | some b =>
    let r ← readAt maxDepth b c
    match r.left.spaces.peek? with
    | none => return r.value
    | some _ => r.left.spaces.failNext .trailingCharacters

end Value

end RecordRelay.Json
