import RecordRelay.Json.Skip

/-!
# Records in a JSON text

A **record** is an object with named fields, or an array that lists the values of the same fields
in order. Members with other names are passed. A name that comes twice is refused before its
second value is looked at. What becomes of fields that never come is for the record to say: some
records refuse it, others have a default.
-/

namespace RecordRelay.Json

/-- The complaint about a value that begins with `b` where something else was `expected`. The
value is read as far as it takes to name it; a fault in that part wins. -/
def wrongType (expected : String) (b : UInt8) (c : Cursor) : Error :=
  let found {d : Cursor} (what : Found) (r : Except Error (Read Unit d)) : Error :=
    match r with
    | .ok r => ⟨.wrongType what expected, r.left.position⟩
    | .error e => e
  let number (r : Except Error (Read Number c.next)) : Error :=
    match r with
    | .ok r => ⟨.wrongType r.value.found expected, r.left.position⟩
    | .error e => e
  if b == 0x6E then found .null (passLiteral nullTail c.next)
  else if b == 0x74 then found (.boolean true) (passLiteral trueTail c.next)
  else if b == 0x66 then found (.boolean false) (passLiteral falseTail c.next)
  else if b == 0x2D then number (readNegative c.next)
  else if isDigit b then number (readNumber false b c.next)
  else if b == 0x22 then
    match readContents c.next with
    | .ok r => ⟨.wrongType (.string r.value) expected, r.left.position⟩
    | .error e => e
  else if b == 0x5B then ⟨.wrongType .sequence expected, c.position⟩
  else if b == 0x7B then ⟨.wrongType .map expected, c.position⟩
  else ⟨.expectedValue, c.peekPosition⟩

/-- **Reads a string** as a value; `expected` is what a complaint says was due. -/
def readString (expected : String) (c : Cursor) : Except Error (Read String c) :=
  match c.spaces.peek? with
  | none => c.spaces.failNext .endInValue
  | some b =>
    if b == 0x22 then do
      return ((← readContents c.spaces.next).since c.spaces.next_le).since c.spaces_le
    else .error (wrongType expected b c.spaces)

/-- Reads a string and takes from it what `parse` makes of it. -/
def readParsed (expected : String) (parse : String → Except String α) (c : Cursor) :
    Except Error (Read α c) := do
  let s ← readString expected c
  match parse s.value with
  | .ok value => return s.map fun _ => value
  | .error complaint => s.left.fail (.refused complaint)

/-- The **fields of a record**, read into a value of type `σ` one by one. -/
structure Fields (σ : Type) where
  /-- What a complaint says was due where the whole record should stand. -/
  expected : String
  /-- The names of the fields, in order. -/
  names : List String
  /-- Whether a field has its value. -/
  has : σ → String → Bool
  /-- Reads the value of a field. -/
  read : String → σ → (c : Cursor) → Except Error (Read σ c)
  /-- The complaint about an array with too few values, by their number. -/
  short : Nat → Option Fault
  /-- The complaint about an object at its end. -/
  lacking : σ → Option Fault

namespace Fields

variable {σ : Type} (fields : Fields σ)

/-- Takes the end of an array whose values are all read. -/
def endList (c : Cursor) : Except Error (Read Unit c) :=
  match c.spaces.peek? with
  | none => c.spaces.failNext .endInList
  | some b =>
    if b == 0x5D then .ok ((Read.step () c.spaces).since c.spaces_le)
    else if b == 0x2C then
      let behind := c.spaces.next.spaces
      if behind.nextIs (· == 0x5D) then behind.failNext .trailingComma
      else behind.failNext .trailingCharacters
    else c.spaces.failNext .trailingCharacters

/-- Goes to the next value of an array, if there is one. -/
def nextItem (first : Bool) (c : Cursor) : Except Error (Read Bool c) :=
  match c.spaces.peek? with
  | none => c.spaces.failNext .endInList
  | some b =>
    if b == 0x5D then .ok ((Read.here false c.spaces).since c.spaces_le)
    else if first then .ok ((Read.here true c.spaces).since c.spaces_le)
    else if b == 0x2C then
      let item := c.spaces.next.spaces
      match item.peek? with
      | none => item.failNext .endInValue
      | some b =>
        if b == 0x5D then item.failNext .trailingComma
        else .ok (((Read.here true item).since c.spaces.next.spaces_le).since
          (Nat.le_trans c.spaces.next_le c.spaces_le))
    else c.spaces.failNext .expectedListEnd

/-- Reads the values of the fields `names` from an array, `index` being read already. -/
def readItems (index : Nat) (names : List String) (s : σ) (c : Cursor) :
    Except Error (Read σ c) :=
  match names with
  | [] => do return (← endList c).map fun _ => s
  | name :: names => do
    let item ← nextItem (index == 0) c
    if item.value then
      let value ← fields.read name s item.left
      let rest ← readItems (index + 1) names value.value value.left
      return (rest.since value.left_le).since item.left_le
    else match fields.short index with
      | none => return (((Read.step s item.left).since item.left_le))
      | some fault => item.left.next.fail fault

/-- Takes the colon between a name and its value. -/
def takeColon (c : Cursor) : Except Error (Read Unit c) :=
  match c.spaces.peek? with
  | none => c.spaces.failNext .endInObject
  | some b =>
    if b == 0x3A then .ok ((Read.step () c.spaces).since c.spaces_le)
    else c.spaces.failNext .expectedColon

/-- Goes to the opening quote of the next name, if there is one. -/
def nextName (first : Bool) (c : Cursor) : Except Error (Read Bool c) :=
  match c.spaces.peek? with
  | none => c.spaces.failNext .endInObject
  | some b =>
    if b == 0x7D then .ok ((Read.here false c.spaces).since c.spaces_le)
    else if first then
      if b == 0x22 then .ok ((Read.here true c.spaces).since c.spaces_le)
      else c.spaces.failNext .keyNotString
    else if b == 0x2C then
      let name := c.spaces.next.spaces
      match name.peek? with
      | none => name.failNext .endInValue
      | some b =>
        if b == 0x22 then
          .ok (((Read.here true name).since c.spaces.next.spaces_le).since
            (Nat.le_trans c.spaces.next_le c.spaces_le))
        else if b == 0x7D then name.failNext .trailingComma
        else name.failNext .keyNotString
    else c.spaces.failNext .expectedObjectEnd

/-- Reads the value that follows a name: into its field, or past it. -/
def readMember (name : String) (s : σ) (c : Cursor) : Except Error (Read σ c) :=
  if fields.names.contains name then
    if fields.has s name then
      (if c.spaces.nextIs (· == 0x7D) then c.spaces.next else c.spaces).fail (.duplicateField name)
    else do
      let colon ← takeColon c
      return (← fields.read name s colon.left).since colon.left_le
  else do
    let colon ← takeColon c
    return ((← skipValue colon.left).map fun _ => s).since colon.left_le

/-- Reads the members of an object up to and with its end. -/
def readMembers {start : Cursor} (first : Bool) (s : σ) (c : Cursor)
    (le : c.rest.length ≤ start.rest.length) : Except Error (Read σ start) :=
  match nextName first c with
  | .error e => .error e
  | .ok name =>
    have name_le := name.left_le
    match h : name.left.peek? with
    | none => name.left.failNext .endInObject
    | some _ =>
      have lt := Cursor.next_lt h
      if name.value then
        match readContents name.left.next with
        | .error e => .error e
        | .ok key =>
          have key_le := key.left_le
          match fields.readMember key.value s key.left with
          | .error e => .error e
          | .ok member =>
            have := member.left_le
            readMembers false member.value member.left (by omega)
      else match fields.lacking s with
        | none => .ok ((Read.step s name.left).since (by omega))
        | some fault => name.left.next.fail fault
termination_by c.rest.length
decreasing_by all_goals omega

/-- **Reads a record** in either form. -/
def readRecord (empty : σ) (c : Cursor) : Except Error (Read σ c) :=
  match c.spaces.peek? with
  | none => c.spaces.failNext .endInValue
  | some b =>
    if b == 0x5B then do
      return ((← fields.readItems 0 fields.names empty c.spaces.next).since
        c.spaces.next_le).since c.spaces_le
    else if b == 0x7B then do
      return ((← fields.readMembers true empty c.spaces.next c.spaces.next.le_refl).since
        c.spaces.next_le).since c.spaces_le
    else .error (wrongType fields.expected b c.spaces)

/-- Reads a text that is **one record**, with nothing but spaces around it. -/
def read? (empty : σ) (text : Bytes) : Except Error σ := do
  let r ← fields.readRecord empty (Cursor.start text)
  match r.left.spaces.peek? with
  | none => return r.value
  | some _ => r.left.spaces.failNext .trailingCharacters

end Fields

end RecordRelay.Json
