import RecordRelay.Toml.Scalar

/-!
# TOML documents

A document is a list of entries under headers. Adding an entry or a header changes one table,
which is found by a path; the tables on the way that do not exist yet come into being on the way.

Nothing is said twice: a key has one value, a table has one header, and what was written between
braces or brackets is complete. Behind a header dotted keys may add to tables that dotted keys
brought into being, and to no others.
-/

namespace RecordRelay.Toml

namespace Entries

/-- Whether there is an entry with this key. -/
def has (key : String) (entries : Entries) : Bool := entries.any (·.1 == key)

/-- Gives a key that has a value another one, in its place. -/
def replace (key : String) (v : Value) (entries : Entries) : Entries :=
  entries.map fun e => if e.1 == key then (key, v) else e

/-- The entries without the one of a key. -/
def remove (key : String) (entries : Entries) : Entries := entries.filter (·.1 != key)

/-- Changes the table that a path leads to. Tables that are missing on the way come into being
with the origin `way`; a way of dotted keys does not lead through a table that has a header. The
change is told the origin of the table it meets. -/
def alter (way : Origin) (change : Origin → Entries → Option Entries) (origin : Origin) :
    List String → Entries → Option Entries
  | [], entries => change origin entries
  | key :: path, entries =>
    match entries.lookup key with
    | none => do some (entries ++ [(key, .table way (← alter way change way path []))])
    | some (.tables elements) => do
      let last ← elements.getLast?
      let last ← alter way change .header path last
      some (entries.replace key (.tables (elements.dropLast ++ [last])))
    | some (.table origin inner) =>
      if origin = .inline ∨ (origin = .header ∧ way = .dotted) then none
      else do
        let inner ← alter way change origin path inner
        some (entries.replace key (.table origin inner))
    | some _ => none

/-- Adds an entry under a dotted key. -/
def put? (path : List String) (key : String) (v : Value) (entries : Entries) : Option Entries :=
  alter .dotted (fun origin table =>
    if (path ≠ [] ∧ origin ≠ .dotted) ∨ table.has key then none else some (table ++ [(key, v)]))
    .header path entries

/-- Adds an entry under the header of a section. -/
def putUnder? (section_ : List String) (path : List String) (key : String) (v : Value)
    (entries : Entries) : Option Entries :=
  alter .implied (fun _ table => put? path key v table) .header section_ entries

/-- Gives a table its header. A table that was only named on the way to others keeps what it has. -/
def openTable? (path : List String) (key : String) (entries : Entries) : Option Entries :=
  alter .implied (fun _ table =>
    match table.lookup key with
    | none => some (table ++ [(key, .table .header [])])
    | some (.table .implied inner) => some (table.remove key ++ [(key, .table .header inner)])
    | some _ => none) .header path entries

/-- Begins another element of an array of tables. -/
def openElement? (path : List String) (key : String) (entries : Entries) : Option Entries :=
  alter .implied (fun _ table =>
    match table.lookup key with
    | none => some (table ++ [(key, .tables [[]])])
    | some (.tables elements) => some (table.replace key (.tables (elements ++ [[]])))
    | some _ => none) .header path entries

end Entries

/-- A reader of one value. -/
abbrev Reader := (text : List Char) → Option (Read Value text)

/-- A mark that stands behind gaps leaves less. -/
theorem afterGaps_lt {mark : Char} {text rest : List Char}
    (h : afterMark? mark (skipGaps false text) = some rest) : rest.length < text.length :=
  Nat.lt_of_lt_of_le (afterMark?_lt h) (skipGaps_le ..)

/-- A mark that stands behind spaces leaves less. -/
theorem afterSpaces_lt {mark : Char} {text rest : List Char}
    (h : afterMark? mark (skipSpaces text) = some rest) : rest.length < text.length :=
  Nat.lt_of_lt_of_le (afterMark?_lt h) (skipSpaces_le _)

/-- Behind an element that stood behind gaps less is left. -/
theorem element_lt {text : List Char} (r : Read Value (skipGaps false text)) :
    r.left.length < text.length :=
  Nat.lt_of_lt_of_le r.left_lt (skipGaps_le ..)

/-- Reads the elements of an array from behind its opening bracket or a comma. -/
def readElements? (one : Reader) (elements : List Value) (text : List Char) :
    Option (Read (List Value) text) :=
  match h : afterMark? ']' (skipGaps false text) with
  | some rest => some ⟨elements.reverse, rest, afterGaps_lt h⟩
  | none =>
    match one (skipGaps false text) with
    | none => none
    | some r =>
      match h : afterMark? ',' (skipGaps false r.left), e : afterMark? ']' (skipGaps false r.left) with
      | some rest, _ =>
        have rest_lt : rest.length < text.length := Nat.lt_trans (afterGaps_lt h) (element_lt r)
        (readElements? one (r.value :: elements) rest).map (·.since (Nat.le_of_lt rest_lt))
      | none, some rest =>
        some ⟨(r.value :: elements).reverse, rest, Nat.lt_trans (afterGaps_lt e) (element_lt r)⟩
      | none, none => none
termination_by text.length

/-- Reads a key, an equals sign and a value. -/
def readEntry? (one : Reader) (text : List Char) :
    Option (Read ((List String × String) × Value) text) :=
  match readKey? text with
  | none => none
  | some key =>
    match h : afterMark? '=' key.left with
    | none => none
    | some rest =>
      have value_le : (skipSpaces rest).length ≤ text.length :=
        Nat.le_trans (skipSpaces_le _) (Nat.le_of_lt (Nat.lt_trans (afterMark?_lt h) key.left_lt))
      (one (skipSpaces rest)).map fun r => (r.map (key.value, ·)).since value_le

/-- Reads the entries between braces from behind the opening one or a comma. -/
def readEntries? (one : Reader) (entries : Entries) (text : List Char) :
    Option (Read Entries text) :=
  match readEntry? one text with
  | none => none
  | some r =>
    match entries.put? r.value.1.1 r.value.1.2 r.value.2 with
    | none => none
    | some entries =>
      match h : afterMark? ',' (skipSpaces r.left), e : afterMark? '\x7d' (skipSpaces r.left) with
      | some rest, _ =>
        have rest_lt : rest.length < text.length := Nat.lt_trans (afterSpaces_lt h) r.left_lt
        (readEntries? one entries rest).map (·.since (Nat.le_of_lt rest_lt))
      | none, some rest => some ⟨entries, rest, Nat.lt_trans (afterSpaces_lt e) r.left_lt⟩
      | none, none => none
termination_by text.length

/-- Reads a table from behind its opening brace. -/
def readInline? (one : Reader) (text : List Char) : Option (Read Entries text) :=
  match h : afterMark? '\x7d' (skipSpaces text) with
  | some rest => some ⟨[], rest, afterSpaces_lt h⟩
  | none => (readEntries? one [] (skipSpaces text)).map (·.since (skipSpaces_le _))

/-- Reads a **value** in which arrays and tables are nested at most `depth` deep. -/
def readValue? : (depth : Nat) → Reader
  | _, [] => none
  | depth, c :: rest =>
    if c = '"' ∨ c = '\'' then (readString? c (c :: rest)).map (·.map .string)
    else if c = '[' then
      match depth with
      | 0 => none
      | depth + 1 =>
        (readElements? (readValue? depth) [] rest).map fun r =>
          (r.map .array).since (Nat.le_succ _)
    else if c = '\x7b' then
      match depth with
      | 0 => none
      | depth + 1 =>
        (readInline? (readValue? depth) rest).map fun r =>
          (r.map (.table .inline)).since (Nat.le_succ _)
    else readScalar? (c :: rest)

/-- What is left of a text behind brackets that close a header, and its line. -/
def afterHeader? (brackets : List Char) (text : List Char) : Option (List Char) :=
  if brackets.isPrefixOf text then afterLine? (text.drop brackets.length) else none

theorem afterHeader?_le {brackets text rest : List Char}
    (h : afterHeader? brackets text = some rest) : rest.length ≤ text.length := by
  unfold afterHeader? at h
  split at h
  · exact Nat.le_trans (afterLine?_le h) (by simp)
  · cases h

/-- Behind a header and its line less is left. -/
theorem header_lt {brackets text left : List Char} (r : Read α text)
    (h : afterHeader? brackets r.left = some left) : left.length < text.length :=
  Nat.lt_of_le_of_lt (afterHeader?_le h) r.left_lt

/-- One item of a document. -/
inductive Item where
  /-- An entry under the last header. -/
  | entry (path : List String) (key : String) (v : Value)
  /-- A header. -/
  | table (path : List String) (key : String)
  /-- A doubled header. -/
  | element (path : List String) (key : String)

/-- Reads an item with its line. -/
def readItem? (text : List Char) : Option (Read Item text) :=
  match text with
  | '[' :: '[' :: rest => do
    let r ← readKey? rest
    match h : afterHeader? [']', ']'] r.left with
    | none => none
    | some left =>
      some ⟨.element r.value.1 r.value.2, left,
        Nat.lt_succ_of_lt (Nat.lt_succ_of_lt (header_lt r h))⟩
  | '[' :: rest => do
    let r ← readKey? rest
    match h : afterHeader? [']'] r.left with
    | none => none
    | some left =>
      some ⟨.table r.value.1 r.value.2, left, Nat.lt_succ_of_lt (header_lt r h)⟩
  | text => do
    let r ← readEntry? (readValue? maxNesting) text
    match h : afterLine? r.left with
    | none => none
    | some left =>
      some ⟨.entry r.value.1.1 r.value.1.2 r.value.2, left,
        Nat.lt_of_le_of_lt (afterLine?_le h) r.left_lt⟩

/-- Adds an item to a document whose last header is `section_`: the document and its last header
after it. -/
def Entries.add? (item : Item) (section_ : List String) (root : Entries) :
    Option (Entries × List String) :=
  match item with
  | .entry path key v => (root.putUnder? section_ path key v).map (·, section_)
  | .table path key => (root.openTable? path key).map (·, path ++ [key])
  | .element path key => (root.openElement? path key).map (·, path ++ [key])

/-- Reads the items of a document from here on. -/
def readItems? (root : Entries) (section_ : List String) (text : List Char) : Option Entries :=
  let ahead := skipGaps false text
  have : ahead.length ≤ text.length := skipGaps_le ..
  if ahead = [] then some root
  else match readItem? ahead with
    | none => none
    | some r =>
      have := r.left_lt
      match root.add? r.value section_ with
      | none => none
      | some (root, section_) => readItems? root section_ r.left
termination_by text.length

/-- Reads a **document**; a byte order mark may stand before it. -/
def readDocument (text : String) : Except Fault Value :=
  let text := text.toList
  match readItems? [] [] (if text.head? = some '\uFEFF' then text.drop 1 else text) with
  | some root => .ok (.table .header root)
  | none => .error .illFormed

end RecordRelay.Toml
