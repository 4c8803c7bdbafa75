import RecordRelay.Text.Hex
import RecordRelay.Text.Split

/-!
# Tables of code points

A large property of characters is written down as text: rows between spaces, each a code point or a
range of them in hexadecimal, and behind a colon what the table says of it. Code points that no
hostname can hold may lie in a range or not, whichever makes the table shorter.
-/

namespace RecordRelay.Hostname

/-- A **row** of a table: what it says of the code points from `first` to `last`. -/
structure Row where
  /-- The first code point. -/
  first : Nat
  /-- The last code point. -/
  last : Nat
  /-- What is said of them. -/
  said : List Char
  deriving DecidableEq, Repr

/-- The number that hexadecimal digits spell. -/
def codePoint (cs : List Char) : Nat :=
  cs.foldl (fun n c => n * 16 + (Text.hexCharValue? c).getD 0) 0

/-- Reads a row. -/
def Row.ofText (cs : List Char) : Row :=
  let range := cs.takeWhile (· ≠ ':')
  let said := (cs.dropWhile (· ≠ ':')).drop 1
  match Text.splitOn '-' range with
  | [first, last] => ⟨codePoint first, codePoint last, said⟩
  | _ => ⟨codePoint range, codePoint range, said⟩

/-- The rows of a table that is written in several lines. -/
def rowsOf (lines : List String) : List Row :=
  lines.flatMap fun line => (Text.splitOn ' ' line.toList).map Row.ofText

/-- Whether a row is about a character. -/
def Row.covers (r : Row) (c : Char) : Bool := r.first ≤ c.toNat && c.toNat ≤ r.last

/-- Whether some row is about a character. -/
def covered (rows : List Row) (c : Char) : Bool := rows.any (·.covers c)

/-- What the first row about a character says. -/
def said? (rows : List Row) (c : Char) : Option (List Char) :=
  (rows.find? (·.covers c)).map (·.said)

end RecordRelay.Hostname
