import RecordRelay.Json.Cursor
import RecordRelay.Text.Quoted

/-!
# What can be wrong with a JSON text

A `Fault` is the cause, an `Error` the cause with its place. Most faults are about the grammar; a
record whose text is well formed can still have a value of the wrong kind, a name twice, a name
too few, or a value that its field refuses.
-/

namespace RecordRelay.Json

/-- What stands where something else was expected. -/
inductive Found where
  /-- The value `null`. -/
  | null
  /-- A truth value. -/
  | boolean (value : Bool)
  /-- A whole number in the range of 64-bit integers. -/
  | integer (value : Int)
  /-- Any other number, by its decimal text. -/
  | floating (text : String)
  /-- A string. -/
  | string (value : String)
  /-- An array. -/
  | sequence
  /-- An object. -/
  | map
  deriving DecidableEq, Repr

/-- How a message names what was found. -/
def Found.message : Found → String
  | null => "null"
  | boolean value => "boolean `" ++ (if value then "true" else "false") ++ "`"
  | integer value => "integer `" ++ toString value ++ "`"
  | floating text => "floating point `" ++ text ++ "`"
  | string value => "string " ++ Text.quoted value
  | sequence => "sequence"
  | map => "map"

/-- The **causes** for which a text is refused. -/
inductive Fault where
  | endInList
  | endInObject
  | endInString
  | endInValue
  | expectedColon
  | expectedListEnd
  | expectedObjectEnd
  | expectedLiteral
  | expectedValue
  | invalidEscape
  | invalidNumber
  | numberOutOfRange
  | invalidCodePoint
  | controlCharacter
  | keyNotString
  | loneSurrogate
  | trailingComma
  | trailingCharacters
  | endOfEscape
  | nestedTooDeep
  | wrongType (found : Found) (expected : String)
  | wrongLength (length : Nat) (expected : String)
  | duplicateField (name : String)
  | missingField (name : String)
  | refused (complaint : String)
  deriving DecidableEq, Repr

/-- The words for a fault. -/
def Fault.message : Fault → String
  | endInList => "EOF while parsing a list"
  | endInObject => "EOF while parsing an object"
  | endInString => "EOF while parsing a string"
  | endInValue => "EOF while parsing a value"
  | expectedColon => "expected `:`"
  | expectedListEnd => "expected `,` or `]`"
  | expectedObjectEnd => "expected `,` or `\x7d`"
  | expectedLiteral => "expected ident"
  | expectedValue => "expected value"
  | invalidEscape => "invalid escape"
  | invalidNumber => "invalid number"
  | numberOutOfRange => "number out of range"
  | invalidCodePoint => "invalid unicode code point"
  | controlCharacter => "control character (\\u0000-\\u001F) found while parsing a string"
  | keyNotString => "key must be a string"
  | loneSurrogate => "lone leading surrogate in hex escape"
  | trailingComma => "trailing comma"
  | trailingCharacters => "trailing characters"
  | endOfEscape => "unexpected end of hex escape"
  | nestedTooDeep => "recursion limit exceeded"
  | wrongType found expected => "invalid type: " ++ found.message ++ ", expected " ++ expected
  | wrongLength length expected => "invalid length " ++ toString length ++ ", expected " ++ expected
  | duplicateField name => "duplicate field `" ++ name ++ "`"
  | missingField name => "missing field `" ++ name ++ "`"
  | refused complaint => complaint

/-- A fault **at its place**. -/
structure Error where
  /-- The cause. -/
  fault : Fault
  /-- Where reading stood. -/
  position : Position
  deriving DecidableEq, Repr

/-- The words for an error: its cause, its line and its column. -/
def Error.message (e : Error) : String :=
  e.fault.message ++ " at line " ++ toString e.position.line ++ " column " ++
    toString e.position.column

/-- A fault found in what was taken last. -/
def Cursor.fail (c : Cursor) (fault : Fault) : Except Error α := .error ⟨fault, c.position⟩

/-- A fault found in what is to be taken next. -/
def Cursor.failNext (c : Cursor) (fault : Fault) : Except Error α :=
  .error ⟨fault, c.peekPosition⟩

end RecordRelay.Json
