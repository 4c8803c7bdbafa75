import RecordRelay.Toml.Gap

/-!
# TOML strings

A string is written between quotation marks or between apostrophes, on one line or, between
tripled marks, on several. Between quotation marks a backslash begins an escape; between
apostrophes it stands for itself. A string on several lines drops the line's end right behind its
opening, writes every other one as LF, and may hold its own mark once or twice in a row, also
right before the closing marks.
-/

namespace RecordRelay.Toml

/-- The value of a hexadecimal digit. -/
def hexValue? (c : Char) : Option Nat :=
  if '0' ≤ c ∧ c ≤ '9' then some (c.toNat - '0'.toNat)
  else if 'a' ≤ c ∧ c ≤ 'f' then some (c.toNat - 'a'.toNat + 10)
  else if 'A' ≤ c ∧ c ≤ 'F' then some (c.toNat - 'A'.toNat + 10)
  else none

/-- The character with this code point, if there is one. -/
def scalar? (n : Nat) : Option Char := if n.isValidChar then some (Char.ofNat n) else none

/-- The character that a one-letter escape stands for. -/
def letterEscape? : Char → Option Char
  | 'b' => some '\x08'
  | 't' => some '\t'
  | 'n' => some '\n'
  | 'f' => some '\x0C'
  | 'r' => some '\r'
  | '"' => some '"'
  | '\\' => some '\\'
  | _ => none

/-- The number of hexadecimal digits that follow the letter of an escape. -/
def escapeWidth? : Char → Option Nat
  | 'u' => some 4
  | 'U' => some 8
  | _ => none

/-- The number that hexadecimal digits write. -/
def hexNumber? (digits : List Char) : Option Nat :=
  digits.foldlM (fun n c => (hexValue? c).map (16 * n + ·)) 0

/-- Reads the escape that stands behind a backslash. -/
def readEscape? (text : List Char) : Option (Read Char text) :=
  match text with
  | [] => none
  | c :: rest =>
    match letterEscape? c with
    | some escaped => some ⟨escaped, rest, Nat.lt_succ_self _⟩
    | none => do
      let width ← escapeWidth? c
      if rest.length < width then none
      else
        let escaped ← scalar? (← hexNumber? (rest.take width))
        some ⟨escaped, rest.drop width,
          Nat.lt_succ_of_le (by rw [List.length_drop]; exact Nat.sub_le ..)⟩

/-- Reads a string on one line from behind its opening mark. -/
def readLine? (mark : Char) (escapes : Bool) (start : List Char) (text : List Char) :
    Option (Read String text) :=
  match text with
  | [] => none
  | c :: rest =>
    if c = mark then some ⟨String.ofList start.reverse, rest, Nat.lt_succ_self _⟩
    else if escapes ∧ c = '\\' then
      match readEscape? rest with
      | none => none
      | some r =>
        have := r.left_lt
        (readLine? mark escapes (r.value :: start) r.left).map
          (·.since (by simp only [List.length_cons]; omega))
    else if isPlain c then
      (readLine? mark escapes (c :: start) rest).map (·.since (Nat.le_succ _))
    else none
termination_by text.length

/-- What follows a backslash that ends its line, and the blanks that begin the next lines. -/
def afterJoin? (text : List Char) : Option (List Char) :=
  (afterNewline? (skipSpaces text)).map skipLines

theorem afterJoin?_lt {text rest : List Char} (h : afterJoin? text = some rest) :
    rest.length < text.length := by
  obtain ⟨line, hline, rfl⟩ := Option.map_eq_some_iff.1 h
  exact Nat.lt_of_le_of_lt (skipLines_le _)
    (Nat.lt_of_lt_of_le (afterNewline?_lt hline) (skipSpaces_le _))

/-- Whether a text begins with a tripled mark. -/
def closes (mark : Char) (text : List Char) : Bool := text.take 3 == List.replicate 3 mark

/-- Ends a string at a tripled mark; up to two more marks behind it belong to the string, which
then ends with them. -/
def finishLines (mark : Char) (start : List Char) (text : List Char) : String × List Char :=
  let extra := ((text.drop 3).take 2).takeWhile (· == mark)
  (String.ofList (start.reverse ++ extra), text.drop (3 + extra.length))

theorem finishLines_lt (mark : Char) (start : List Char) (c : Char) (rest : List Char) :
    (finishLines mark start (c :: rest)).2.length < (c :: rest).length := by
  unfold finishLines
  simp only [List.length_drop, List.length_cons]
  omega

/-- Reads a string on several lines from behind its opening marks and the line's end there. -/
def readLines? (mark : Char) (escapes : Bool) (start : List Char) (text : List Char) :
    Option (Read String text) :=
  match text with
  | [] => none
  | c :: rest =>
    if closes mark (c :: rest) then
      let r := finishLines mark start (c :: rest)
      some ⟨r.1, r.2, finishLines_lt mark start c rest⟩
    else if escapes ∧ c = '\\' then
      match h : afterJoin? rest with
      | some joined =>
        have := afterJoin?_lt h
        (readLines? mark escapes start joined).map
          (·.since (by simp only [List.length_cons]; omega))
      | none =>
        match readEscape? rest with
        | none => none
        | some r =>
          have := r.left_lt
          (readLines? mark escapes (r.value :: start) r.left).map
            (·.since (by simp only [List.length_cons]; omega))
    else if isPlain c then
      (readLines? mark escapes (c :: start) rest).map (·.since (Nat.le_succ _))
    else
      match h : afterNewline? (c :: rest) with
      | some line =>
        have lt : line.length < rest.length + 1 := afterNewline?_lt h
        (readLines? mark escapes ('\n' :: start) line).map (·.since (Nat.le_of_lt lt))
      | none => none
termination_by text.length

/-- Reads a **string** that stands as a value. -/
def readString? (mark : Char) (text : List Char) : Option (Read String text) :=
  let escapes := mark == '"'
  if closes mark text then
    let body := text.drop 3
    have body_le : body.length ≤ text.length := by simp [body]
    match h : afterNewline? body with
    | some line =>
      (readLines? mark escapes [] line).map
        (·.since (Nat.le_trans (Nat.le_of_lt (afterNewline?_lt h)) body_le))
    | none => (readLines? mark escapes [] body).map (·.since body_le)
  else (readLine? mark escapes [] (text.drop 1)).map (·.since (by simp))

/-- A character of a key without marks. -/
def isKeyChar (c : Char) : Bool := c.isAlphanum || c == '_' || c == '-'

/-- Reads one part of a key. -/
def readKeyPart? (text : List Char) : Option (Read String text) :=
  match text with
  | [] => none
  | c :: rest =>
    if c = '"' ∨ c = '\'' then
      (readLine? c (c == '"') [] rest).map (·.since (Nat.le_succ _))
    else if isKeyChar c then
      some ⟨String.ofList (c :: rest.takeWhile isKeyChar), rest.dropWhile isKeyChar,
        Nat.lt_succ_of_le (List.dropWhile_sublist _).length_le⟩
    else none

/-- The greatest number of parts in a key, and of values around a value. -/
def maxNesting : Nat := 79

/-- Behind a part of a key and the spaces around it less is left. -/
theorem behindPart_lt {text : List Char} (part : Read String (skipSpaces text)) :
    (skipSpaces part.left).length < text.length :=
  Nat.lt_of_le_of_lt (skipSpaces_le _) (Nat.lt_of_lt_of_le part.left_lt (skipSpaces_le _))

/-- Reads the parts of a key, with points between them and spaces around them. -/
def readKeyParts? (text : List Char) : Option (Read (List String) text) :=
  match readKeyPart? (skipSpaces text) with
  | none => none
  | some part =>
    match h : afterMark? '.' (skipSpaces part.left) with
    | some rest =>
      have rest_lt : rest.length < text.length :=
        Nat.lt_trans (afterMark?_lt h) (behindPart_lt part)
      (readKeyParts? rest).map fun r => (r.map (part.value :: ·)).since (Nat.le_of_lt rest_lt)
    | none => some ⟨[part.value], skipSpaces part.left, behindPart_lt part⟩
termination_by text.length

/-- Reads a **key**: the tables that lead to it, and its last part. -/
def readKey? (text : List Char) : Option (Read (List String × String) text) := do
  let r ← readKeyParts? text
  let last ← r.value.getLast?
  if r.value.length ≤ maxNesting then some (r.map fun parts => (parts.dropLast, last)) else none

end RecordRelay.Toml
