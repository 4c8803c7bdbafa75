import RecordRelay.Toml.Value

/-!
# Between the tokens of a TOML document

Spaces and tabs separate tokens within a line. A line ends with LF or CR LF, a comment runs up to
that end, and neither a comment nor a string may hold a control character other than the tab.
-/

namespace RecordRelay.Toml

/-- A space or a tab. -/
def isSpace (c : Char) : Bool := c == ' ' || c == '\t'

/-- A character that may stand in a comment or in a string. -/
def isPlain (c : Char) : Bool := c == '\t' || (0x20 ≤ c.toNat && c.toNat != 0x7F)

/-- What follows the spaces and tabs. -/
def skipSpaces (text : List Char) : List Char := text.dropWhile isSpace

/-- What follows a line's end, if the text begins with one. -/
def afterNewline? : List Char → Option (List Char)
  | '\n' :: rest => some rest
  | '\r' :: '\n' :: rest => some rest
  | _ => none

/-- What follows a mark, if the text begins with it. -/
def afterMark? (mark : Char) : List Char → Option (List Char)
  | [] => none
  | c :: rest => if c = mark then some rest else none

/-- What follows blank lines and the spaces before the next token. -/
def skipLines : List Char → List Char
  | '\n' :: rest => skipLines rest
  | '\r' :: '\n' :: rest => skipLines rest
  | c :: rest => if isSpace c then skipLines rest else c :: rest
  | [] => []

/-- What follows spaces, lines' ends and comments. -/
def skipGaps (inComment : Bool) : List Char → List Char
  | '\n' :: rest => skipGaps false rest
  | '\r' :: '\n' :: rest => skipGaps false rest
  | c :: rest =>
    if inComment then
      if isPlain c then skipGaps true rest else c :: rest
    else if c = '#' then skipGaps true rest
    else if isSpace c then skipGaps false rest
    else c :: rest
  | [] => []

/-- What follows the comment that a text begins with, its line's end not included. -/
def skipComment (text : List Char) : List Char :=
  if text.head? = some '#' then text.dropWhile isPlain else text

/-- What follows the rest of a line that holds nothing more than a comment. -/
def afterLine? (text : List Char) : Option (List Char) :=
  match skipComment (skipSpaces text) with
  | [] => some []
  | text => afterNewline? text

theorem skipSpaces_le (text : List Char) : (skipSpaces text).length ≤ text.length :=
  (List.dropWhile_sublist _).length_le

theorem afterNewline?_lt {text rest : List Char} (h : afterNewline? text = some rest) :
    rest.length < text.length := by
  unfold afterNewline? at h
  split at h
  · obtain rfl := Option.some.inj h
    exact Nat.lt_succ_self _
  · obtain rfl := Option.some.inj h
    exact Nat.lt_succ_of_lt (Nat.lt_succ_self _)
  · simp at h

theorem afterMark?_lt {mark : Char} {text rest : List Char} (h : afterMark? mark text = some rest) :
    rest.length < text.length := by
  cases text with
  | nil => cases h
  | cons c text =>
    by_cases hc : c = mark
    · rw [afterMark?, if_pos hc] at h
      obtain rfl := Option.some.inj h
      exact Nat.lt_succ_self _
    · rw [afterMark?, if_neg hc] at h
      cases h

theorem skipLines_le (text : List Char) : (skipLines text).length ≤ text.length := by
  fun_induction skipLines text with
  | case1 rest ih => exact Nat.le_trans ih (Nat.le_succ _)
  | case2 rest ih => exact Nat.le_trans ih (by simp only [List.length_cons]; omega)
  | case3 c rest _ _ _ ih => exact Nat.le_trans ih (Nat.le_succ _)
  | case4 => exact Nat.le_refl _
  | case5 => exact Nat.le_refl _

theorem skipGaps_le (inComment : Bool) (text : List Char) :
    (skipGaps inComment text).length ≤ text.length := by
  fun_induction skipGaps inComment text <;> simp_all <;> omega

theorem skipComment_le (text : List Char) : (skipComment text).length ≤ text.length := by
  unfold skipComment
  split
  · exact (List.dropWhile_sublist _).length_le
  · exact Nat.le_refl _

theorem afterLine?_le {text rest : List Char} (h : afterLine? text = some rest) :
    rest.length ≤ text.length := by
  unfold afterLine? at h
  split at h
  · cases h
    exact Nat.zero_le _
  · exact Nat.le_trans (Nat.le_of_lt (afterNewline?_lt h))
      (Nat.le_trans (skipComment_le _) (skipSpaces_le _))

end RecordRelay.Toml
