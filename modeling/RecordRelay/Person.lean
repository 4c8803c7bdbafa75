import RecordRelay.Json.Record
import RecordRelay.Protobuf.Wire

/-!
# The record that is relayed

A **person** has two names. Both are required, and an empty name counts as absent, so a person read
from a body may turn out to be incomplete. The same two fields have one JSON form and one protobuf
form; reading either starts from a person without names, and a name that the body does not mention
stays empty.
-/

namespace RecordRelay

/-- The record carried through both hops. -/
structure Person where
  /-- The first name. -/
  firstname : String
  /-- The last name. -/
  lastname : String
  deriving DecidableEq, Repr

/-- The two names of a person. -/
inductive NameField where
  | first
  | last
  deriving DecidableEq, Repr

/-- What a name is called on the wire. -/
def NameField.label : NameField → String
  | first => "firstname"
  | last => "lastname"

/-- The number of a name on the wire. -/
def NameField.number : NameField → Nat
  | first => 1
  | last => 2

/-- The name with this number. -/
def NameField.ofNumber? : Nat → Option NameField
  | 1 => some .first
  | 2 => some .last
  | _ => none

namespace Person

/-- A person without names. -/
def unnamed : Person := ⟨"", ""⟩

/-- One of the two names. -/
def name (p : Person) : NameField → String
  | .first => p.firstname
  | .last => p.lastname

/-- The person with one name replaced. -/
def withName (p : Person) (field : NameField) (s : String) : Person :=
  match field with
  | .first => { p with firstname := s }
  | .last => { p with lastname := s }

@[simp]
theorem name_withName (p : Person) (field other : NameField) (s : String) :
    (p.withName field s).name other = if other = field then s else p.name other := by
  cases field <;> cases other <;> rfl

/-- The **first name that is missing**, if one is. -/
def missing? (p : Person) : Option NameField :=
  if p.firstname = "" then some .first
  else if p.lastname = "" then some .last
  else none

/-- Nothing is missing exactly when both names are there. -/
theorem missing?_eq_none_iff (p : Person) :
    p.missing? = none ↔ p.firstname ≠ "" ∧ p.lastname ≠ "" := by
  unfold missing?
  split <;> simp_all

/-! ## The JSON form -/

/-- A person as far as a text has named one. -/
structure Partial where
  /-- The first name, once it was read. -/
  first : Option String
  /-- The last name, once it was read. -/
  last : Option String
  deriving DecidableEq, Repr

/-- Before anything was read. -/
def Partial.empty : Partial := ⟨none, none⟩

/-- Names that were never read are empty. -/
def Partial.complete (p : Partial) : Person := ⟨p.first.getD "", p.last.getD ""⟩

/-- The fields of a person in JSON. Too few are no fault of the text. -/
def jsonFields : Json.Fields Partial where
  expected := "struct User"
  names := ["firstname", "lastname"]
  has p name := if name = "firstname" then p.first.isSome else p.last.isSome
  read name p c := do
    let s ← Json.readString "a string" c
    return s.map fun s =>
      if name = "firstname" then { p with first := some s } else { p with last := some s }
  short _ := none
  lacking _ := none

/-- Reads a person from a JSON text. -/
def ofJson? (text : Bytes) : Except Json.Error Person := do
  return (← jsonFields.read? .empty text).complete

/-- A person as a JSON text. -/
def toJson (p : Person) : Bytes :=
  Bytes.ofString "\x7b\"firstname\":" ++ Json.quote p.firstname ++
    Bytes.ofString ",\"lastname\":" ++ Json.quote p.lastname ++ Bytes.ofString "\x7d"

/-! ## The protobuf form -/

/-- How a complaint names a field of the message. -/
def fieldName (field : NameField) : String := "User." ++ field.label

/-- Reads the fields that follow into `p`. A name that comes again replaces the earlier one;
fields with other numbers are passed. -/
def mergeWire (p : Person) (bytes : Bytes) : Except Protobuf.Error Person :=
  if bytes.isEmpty then .ok p
  else match h : Protobuf.readKey bytes with
    | .error fault => .error ⟨fault, none⟩
    | .ok (key, left) =>
      have _lt := Protobuf.readKey_lt h
      match NameField.ofNumber? key.number with
      | some field =>
        match hs : Protobuf.readText key.wire left with
        | .error fault => .error ⟨fault, some (fieldName field)⟩
        | .ok (s, rest) =>
          have := Protobuf.readText_lt hs
          mergeWire (p.withName field s) rest
      | none =>
        match Protobuf.passValue Protobuf.maxDepth key left with
        | .error fault => .error ⟨fault, none⟩
        | .ok rest =>
          have := rest.2
          mergeWire p rest.1
termination_by bytes.length
decreasing_by all_goals omega

/-- Reads a person from a protobuf message. -/
def ofWire? (bytes : Bytes) : Except Protobuf.Error Person := mergeWire unnamed bytes

/-- One name as a field; an empty name is not written. -/
def wireField (field : NameField) (s : String) : Bytes :=
  if s = "" then [] else Protobuf.encodeText field.number s

/-- A person as a protobuf message. -/
def toWire (p : Person) : Bytes := wireField .first p.firstname ++ wireField .last p.lastname

end Person

end RecordRelay
