/-!
# The visible part of a text

A terminal takes some characters as orders and shows others. What it would show of a text is its
**visible part**: control characters and control sequences are left out, and whatever else there is
stays as it is.

A sequence begins with ESC. Behind `ESC [` come parameters up to a letter, behind `ESC ]`, `ESC P`
and their like a string that a new ESC ends, or BEL where the string is a command; any other
sequence is a few marks and one final character. CAN and SUB break off every sequence, and blank
controls inside one are shown and break it off too.
-/

namespace RecordRelay.Text

/-- What a terminal **is in the middle of**. -/
inductive Sequence where
  /-- Nothing: characters are shown. -/
  | none
  /-- ESC was the last character. -/
  | begun
  /-- Marks after an ESC. -/
  | marks
  /-- Parameters after `ESC [`. -/
  | parameters
  /-- A string after `ESC ]`, which BEL ends as well. -/
  | command
  /-- A string after `ESC P`, `ESC X`, `ESC ^` or `ESC _`. -/
  | string
  deriving DecidableEq, Repr

namespace Sequence

/-- Whether a character below the printable ones is shown: tab, line feed, form feed and carriage
return. -/
def isShownControl (c : Char) : Bool := c == '\t' || c == '\n' || c == '\x0C' || c == '\r'

/-- What a character behind ESC opens. -/
def opened (c : Char) : Sequence :=
  if c = '[' then parameters
  else if c = ']' then command
  else if c = 'P' ∨ c = 'X' ∨ c = '^' ∨ c = '_' then string
  else none

/-- **One character**: whether it is shown, and what the terminal is in the middle of then. -/
def step (s : Sequence) (c : Char) : Bool × Sequence :=
  if c = '\x1B' then (false, begun)
  else if c = '\x18' ∨ c = '\x1A' then (false, none)
  else
    let final (low : Char) (next : Sequence) : Bool × Sequence :=
      if isShownControl c then (true, none)
      else (false, if low ≤ c ∧ c < '\x7F' then next else s)
    match s with
    | none => (isShownControl c || (' ' ≤ c && c ≠ '\x7F'), none)
    | begun => if ' ' ≤ c ∧ c < '0' then (false, marks) else final '0' (opened c)
    | marks => final '0' none
    | parameters => final '@' none
    | command => (false, if c = '\x07' then none else s)
    | string => (false, s)

end Sequence

/-- What is visible of characters that come in the middle of `s`. -/
def visibleFrom (s : Sequence) : List Char → List Char
  | [] => []
  | c :: rest =>
    let (shown, next) := s.step c
    if shown then c :: visibleFrom next rest else visibleFrom next rest

/-- The **visible part** of a text. -/
def visible (s : String) : String := String.ofList (visibleFrom .none s.toList)

/-- ESC and what resets a terminal: at the end of a foreign text it ends whatever sequence that
text has left open. -/
def reset : String := "\x1B[0m"

end RecordRelay.Text
