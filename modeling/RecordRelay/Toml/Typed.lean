import RecordRelay.Toml.Value

/-!
# Reading typed values

A key that is known has a type, and its value is read as that type or refused. A record is read
from a table, where keys that are not known are passed over, or from an array, which gives the
fields in their order; a field that is not given keeps its value. The entries are read in the
order in which they were written, and the first refusal stands.
-/

namespace RecordRelay.Toml

/-- A text; `expected` is what a refusal asks for. -/
def Value.asText (expected : String) : Value → Except Fault String
  | .string value => .ok value
  | v => .error (.wrongType v.found expected)

/-- A whole number between two bounds. -/
def Value.asInteger (expected : String) (least greatest : Int) : Value → Except Fault Int
  | .integer n =>
    if least ≤ n ∧ n ≤ greatest then .ok n else .error (.outOfRange (.integer n) expected)
  | v => .error (.wrongType v.found expected)

/-- A list of texts. -/
def Value.asTexts (v : Value) : Except Fault (List String) :=
  match v.elements? with
  | some elements => elements.mapM (Value.asText "a string")
  | none => .error (.wrongType v.found "a sequence")

/-- What belongs to a name has to be empty. -/
def Value.checkEmpty : Value → Except Fault Unit
  | .table _ [] | .array [] | .tables [] => .ok ()
  | .tables _ => .error (.notEmpty "array")
  | .table _ _ | .array _ => .error (.notEmpty "table")
  | .string _ => .error (.notATable "string")
  | .integer _ => .error (.notATable "integer")
  | .floating _ => .error (.notATable "float")
  | .boolean _ => .error (.notATable "boolean")
  | .datetime => .error (.notATable "datetime")

/-- One of the names that are known, given as a text or as the one key of a table. -/
def Value.asName (known : List (String × α)) (v : Value) : Except Fault α :=
  let named (name : String) : Except Fault α :=
    match known.lookup name with
    | some a => .ok a
    | none => .error (.unknownVariant name (known.map (·.1)))
  match v with
  | .string name => named name
  | .table _ [] => .error (.variantCount false)
  | .table _ [(name, content)] => do
    let a ← named name
    content.checkEmpty
    .ok a
  | .table _ _ => .error (.variantCount true)
  | _ => .error .noVariant

/-- A **member** of a record: a field that a table may set. -/
structure Member (ρ : Type) where
  /-- Its key. -/
  name : String
  /-- Puts a value into the record, or refuses it. -/
  put : Value → ρ → Except Fault ρ

/-- Puts the values of a table's entries into a record. -/
def readTable (fields : List (Member ρ)) (entries : Entries) (start : ρ) : Except Fault ρ :=
  entries.foldlM (fun r e =>
    match fields.find? (·.name == e.1) with
    | some field => field.put e.2 r
    | none => .ok r) start

/-- Puts the elements of an array into a record, field by field. -/
def readArray (fields : List (Member ρ)) (elements : List Value) (start : ρ) : Except Fault ρ :=
  (fields.zip elements).foldlM (fun r e => e.1.put e.2 r) start

/-- **Reads a record**; the fields that are not given are those of `start`. -/
def readRecord (expected : String) (fields : List (Member ρ)) (start : ρ) (v : Value) :
    Except Fault ρ :=
  match v with
  | .table _ entries => readTable fields entries start
  | .datetime => .ok start
  | .array elements => readArray fields elements start
  | .tables elements => readArray fields (elements.map (.table .header)) start
  | v => .error (.wrongType v.found expected)

end RecordRelay.Toml
