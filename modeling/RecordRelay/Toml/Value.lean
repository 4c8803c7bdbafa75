import RecordRelay.Decimal.Shortest
import RecordRelay.Toml.Fault

/-!
# TOML values

A document is a table whose entries keep the order in which they were written. A table also
remembers its **origin**, since that decides who may add to it: one between braces is complete,
one under a header grows only below that header, one that was merely named on the way to another
table may still get a header of its own.
-/

namespace RecordRelay.Toml

/-- How a table came into being. -/
inductive Origin where
  /-- It is written between braces. -/
  | inline
  /-- It has a header. -/
  | header
  /-- A header names it on the way to another table. -/
  | implied
  /-- A dotted key names it on the way to its value. -/
  | dotted
  deriving DecidableEq, Repr

/-- A value. -/
inductive Value where
  | string (value : String)
  | integer (value : Int)
  | floating (value : Float)
  | boolean (value : Bool)
  /-- A date, a time or both; nothing here asks which. -/
  | datetime
  | array (elements : List Value)
  | table (origin : Origin) (entries : List (String × Value))
  /-- An array of tables, each under a doubled header. -/
  | tables (elements : List (List (String × Value)))

/-- The entries of a table, in the order in which they were written. -/
abbrev Entries := List (String × Value)

/-- In messages a number never has an exponent, and of two decimals equally far the greater one is
shown. -/
def messageLayout : Decimal.Layout := ⟨-400, 400, "", .up⟩

namespace Value

/-- What a message says was found. -/
def found : Value → Found
  | string value => .string value
  | integer value => .integer value
  | floating value => .floating (messageLayout.showFloat value)
  | boolean value => .boolean value
  | array _ | tables _ => .sequence
  | datetime | table _ _ => .map

/-- The elements of an array. -/
def elements? : Value → Option (List Value)
  | array elements => some elements
  | tables elements => some (elements.map (table .header))
  | _ => none

end Value

/-- A **reading** of `text`: a value and the rest, which is shorter than the text. -/
structure Read (α : Type) (text : List Char) where
  /-- What was read. -/
  value : α
  /-- What is left. -/
  left : List Char
  /-- Something was taken. -/
  left_lt : left.length < text.length

/-- The same reading with another value. -/
def Read.map {text : List Char} (f : α → β) (r : Read α text) : Read β text :=
  ⟨f r.value, r.left, r.left_lt⟩

/-- The same reading seen from a longer text. -/
def Read.since {short long : List Char} (r : Read α short) (h : short.length ≤ long.length) :
    Read α long :=
  ⟨r.value, r.left, Nat.lt_of_lt_of_le r.left_lt h⟩

end RecordRelay.Toml
