import RecordRelay.Json.Fault

/-!
# What can be wrong with a TOML document

A document can be ill formed, and then nothing more is said of it. A well-formed document can hold
a value that its key has no use for.
-/

namespace RecordRelay.Toml

/-- What stands where something else was expected. Both formats name values in the same way. -/
abbrev Found := Json.Found

/-- Why a document was **refused**. -/
inductive Fault where
  /-- It is no document. -/
  | illFormed
  /-- A value has the wrong type. -/
  | wrongType (found : Found) (expected : String)
  /-- A value has the right type, but is out of range. -/
  | outOfRange (found : Found) (expected : String)
  /-- A name is none of those that are known. -/
  | unknownVariant (name : String) (known : List String)
  /-- A name is given neither as a string nor as a table. -/
  | noVariant
  /-- A name is given as a table that has not exactly one key. -/
  | variantCount (several : Bool)
  /-- What belongs to a name is no table. -/
  | notATable (found : String)
  /-- What belongs to a name is a table or array with content. -/
  | notEmpty (what : String)
  deriving DecidableEq, Repr

/-- Alternatives in words. -/
def alternatives : List String → String
  | [] => ""
  | [a] => "`" ++ a ++ "`"
  | [a, b] => "`" ++ a ++ "` or `" ++ b ++ "`"
  | names => "one of " ++ ", ".intercalate (names.map fun a => "`" ++ a ++ "`")

/-- The words for a refusal. -/
def Fault.message : Fault → String
  | illFormed => "TOML parse error"
  | wrongType found expected => "invalid type: " ++ found.message ++ ", expected " ++ expected
  | outOfRange found expected => "invalid value: " ++ found.message ++ ", expected " ++ expected
  | unknownVariant name known =>
    "unknown variant `" ++ name ++ "`, expected " ++ alternatives known
  | noVariant => "wanted string or table"
  | variantCount several =>
    "wanted exactly 1 element, " ++
      (if several then "more than 1 element" else "found 0 elements")
  | notATable found => "expected table, found " ++ found
  | notEmpty what => "expected empty " ++ what

end RecordRelay.Toml
