import RecordRelay.Protobuf.Varint

/-!
# Fields on the wire

A protobuf message is a sequence of fields. Each begins with a key – a varint that holds the
field's number and how its value is laid out, its **wire type** – and the value follows. A reader
that does not know a field passes its value; for a group that means every field up to the matching
end, and groups may be nested only to a fixed depth.
-/

namespace RecordRelay.Protobuf

/-- How a value is laid out. -/
inductive WireType where
  | varint
  | sixtyFourBit
  | lengthDelimited
  | startGroup
  | endGroup
  | thirtyTwoBit
  deriving DecidableEq, Repr

/-- The wire type with this code. -/
def WireType.ofCode? : Nat → Option WireType
  | 0 => some .varint
  | 1 => some .sixtyFourBit
  | 2 => some .lengthDelimited
  | 3 => some .startGroup
  | 4 => some .endGroup
  | 5 => some .thirtyTwoBit
  | _ => none

/-- The code of a wire type. -/
def WireType.code : WireType → Nat
  | varint => 0
  | sixtyFourBit => 1
  | lengthDelimited => 2
  | startGroup => 3
  | endGroup => 4
  | thirtyTwoBit => 5

/-- How a message names a wire type. -/
def WireType.name : WireType → String
  | varint => "Varint"
  | sixtyFourBit => "SixtyFourBit"
  | lengthDelimited => "LengthDelimited"
  | startGroup => "StartGroup"
  | endGroup => "EndGroup"
  | thirtyTwoBit => "ThirtyTwoBit"

/-- The **causes** for which a message is refused. -/
inductive Fault where
  | invalidVarint
  | invalidKey (key : Nat)
  | invalidWireType (code : Nat)
  | invalidNumber
  | wrongWireType (found expected : WireType)
  | underflow
  | notText
  | nestedTooDeep
  | unexpectedEnd
  deriving DecidableEq, Repr

/-- The words for a fault. -/
def Fault.message : Fault → String
  | invalidVarint => "invalid varint"
  | invalidKey key => "invalid key value: " ++ toString key
  | invalidWireType code => "invalid wire type value: " ++ toString code
  | invalidNumber => "invalid tag value: 0"
  | wrongWireType found expected =>
    "invalid wire type: " ++ found.name ++ " (expected " ++ expected.name ++ ")"
  | underflow => "buffer underflow"
  | notText => "invalid string value: data is not UTF-8 encoded"
  | nestedTooDeep => "recursion limit reached"
  | unexpectedEnd => "unexpected end group tag"

/-- A fault, with the field it was found in if the reader knows that field. -/
structure Error where
  /-- The cause. -/
  fault : Fault
  /-- The known field, as a message names it. -/
  field : Option String
  deriving DecidableEq, Repr

/-- The words for an error. -/
def Error.message (e : Error) : String :=
  "failed to decode Protobuf message: " ++
    (match e.field with
      | some field => field ++ ": "
      | none => "") ++ e.fault.message

/-- A field's key. -/
structure Key where
  /-- The field's number, from one. -/
  number : Nat
  /-- How its value is laid out. -/
  wire : WireType
  deriving DecidableEq, Repr

/-- The spelling of a key. -/
def Key.encode (k : Key) : Bytes := Varint.encode (k.number * 8 + k.wire.code)

/-- **Reads a key**, with what follows it. -/
def readKey (bytes : Bytes) : Except Fault (Key × Bytes) :=
  match Varint.read? bytes with
  | none => .error .invalidVarint
  | some (key, left) =>
    if 4294967296 ≤ key then .error (.invalidKey key)
    else match WireType.ofCode? (key % 8) with
      | none => .error (.invalidWireType (key % 8))
      | some wire => if key / 8 = 0 then .error .invalidNumber else .ok (⟨key / 8, wire⟩, left)

theorem readKey_lt {bytes : Bytes} {key : Key} {left : Bytes}
    (h : readKey bytes = .ok (key, left)) : left.length < bytes.length := by
  unfold readKey at h
  split at h
  · simp at h
  · next hread =>
    have := Varint.read?_lt hread
    split at h
    · simp at h
    · split at h
      · simp at h
      · split at h <;> simp_all

/-- Splits off the first `n` octets, handing those taken so far on in reverse. -/
def takeFrom (reversed : Bytes) : Nat → Bytes → Option (Bytes × Bytes)
  | 0, left => some (reversed.reverse, left)
  | _ + 1, [] => none
  | n + 1, b :: left => takeFrom (b :: reversed) n left

/-- Splits off the first `n` octets, if there are that many. -/
def take? (n : Nat) (bytes : Bytes) : Option (Bytes × Bytes) := takeFrom [] n bytes

theorem takeFrom_eq (reversed : Bytes) (n : Nat) (bytes : Bytes) :
    takeFrom reversed n bytes =
      if n ≤ bytes.length then some (reversed.reverse ++ bytes.take n, bytes.drop n) else none := by
  induction n generalizing reversed bytes with
  | zero => simp [takeFrom]
  | succ n ih =>
    cases bytes with
    | nil => simp [takeFrom]
    | cons b bytes => simp [takeFrom, ih]

/-- Splitting is taking and dropping. -/
theorem take?_eq (n : Nat) (bytes : Bytes) :
    take? n bytes =
      if n ≤ bytes.length then some (bytes.take n, bytes.drop n) else none := by
  simp [take?, takeFrom_eq]

/-- What is left of `bytes`. -/
abbrev Left (bytes : Bytes) := { left : Bytes // left.length ≤ bytes.length }

/-- Passes `n` octets. -/
def pass (n : Nat) (bytes : Bytes) : Except Fault (Left bytes) :=
  match h : take? n bytes with
  | none => .error .underflow
  | some (_, left) => .ok ⟨left, by
      rw [take?_eq] at h
      split at h
      · simp only [Option.some.injEq, Prod.mk.injEq] at h
        rw [← h.2]
        simp
      · simp at h⟩

/-- Passes a varint, and with it as many octets as `length` says of it. -/
def passVarint (length : Nat → Nat) (bytes : Bytes) : Except Fault (Left bytes) :=
  match h : Varint.read? bytes with
  | none => .error .invalidVarint
  | some (n, left) =>
    match pass (length n) left with
    | .error fault => .error fault
    | .ok rest => .ok ⟨rest.1, Nat.le_trans rest.2 (Nat.le_of_lt (Varint.read?_lt h))⟩

/-- Passes the fields of a group up to and with its end; `field` passes the value of one. -/
def passGroup {start : Bytes} (field : Key → (bytes : Bytes) → Except Fault (Left bytes))
    (number : Nat) (bytes : Bytes) (le : bytes.length ≤ start.length) :
    Except Fault (Left start) :=
  match h : readKey bytes with
  | .error fault => .error fault
  | .ok (key, left) =>
    have lt := readKey_lt h
    if key.wire = .endGroup then
      if key.number = number then .ok ⟨left, by omega⟩ else .error .unexpectedEnd
    else match field key left with
      | .error fault => .error fault
      | .ok rest =>
        have := rest.2
        passGroup field number rest.1 (by omega)
termination_by bytes.length
decreasing_by omega

/-- **Passes the value** of a field whose key is read, with at most `depth` levels of nesting. -/
def passValue (depth : Nat) (key : Key) (bytes : Bytes) : Except Fault (Left bytes) :=
  match depth with
  | 0 => .error .nestedTooDeep
  | depth + 1 =>
    match key.wire with
    | .varint => passVarint (fun _ => 0) bytes
    | .thirtyTwoBit => pass 4 bytes
    | .sixtyFourBit => pass 8 bytes
    | .lengthDelimited => passVarint id bytes
    | .startGroup => passGroup (passValue depth) key.number bytes (Nat.le_refl _)
    | .endGroup => .error .unexpectedEnd

/-- How many levels of nesting are read. -/
def maxDepth : Nat := 100

/-- Reads a text value: a length and that many octets of UTF-8. -/
def readText (wire : WireType) (bytes : Bytes) : Except Fault (String × Bytes) :=
  if wire ≠ .lengthDelimited then .error (.wrongWireType wire .lengthDelimited)
  else match Varint.read? bytes with
    | none => .error .invalidVarint
    | some (n, left) =>
      match take? n left with
      | none => .error .underflow
      | some (octets, left) =>
        match Bytes.text? octets with
        | none => .error .notText
        | some s => .ok (s, left)

/-- A text field as it is written: key, length, octets. -/
def encodeText (number : Nat) (s : String) : Bytes :=
  let octets := Bytes.ofString s
  Key.encode ⟨number, .lengthDelimited⟩ ++ Varint.encode octets.length ++ octets

theorem readText_lt {wire : WireType} {bytes : Bytes} {s : String} {left : Bytes}
    (h : readText wire bytes = .ok (s, left)) : left.length < bytes.length := by
  unfold readText at h
  split at h
  · simp at h
  · split at h
    · simp at h
    · next hread =>
      have lt := Varint.read?_lt hread
      split at h
      · simp at h
      · next htake =>
        rw [take?_eq] at htake
        split at htake
        · split at h
          · simp at h
          · simp only [Option.some.injEq, Prod.mk.injEq] at htake
            simp only [Except.ok.injEq, Prod.mk.injEq] at h
            rw [← h.2, ← htake.2, List.length_drop]
            omega
        · simp at htake

end RecordRelay.Protobuf
