import RecordRelay.Http.Uri.Escape
import RecordRelay.Text.Split

/-!
# Paths

A path is a list of segments between slashes. A segment of two full stops takes back the one before
it and one of a single full stop means nothing, so that neither is left in a path; at the end of a
path they leave an empty segment behind.

In the path of a file the first segment can be the letter of a drive. It is written with a colon, is
never taken back, and makes any host meaningless.
-/

namespace RecordRelay.Uri

/-- A segment with the escapes of its full stops undone. -/
def dotted : List Char → List Char
  | '%' :: '2' :: e :: rest =>
    if e = 'e' ∨ e = 'E' then '.' :: dotted rest else '%' :: dotted ('2' :: e :: rest)
  | c :: rest => c :: dotted rest
  | [] => []
termination_by cs => cs.length

/-- Whether a segment is the letter of a drive, in either spelling. -/
def isDrive : List Char → Bool
  | [letter, mark] => letter.isAlpha && (mark == ':' || mark == '|')
  | _ => false

/-- Whether a segment is taken for the letter of a drive when it would be taken back. -/
def isKeptBack (segment : List Char) : Bool := isDrive (segment.takeWhile (· ≠ '\\'))

/-- A path **while it is read**. -/
structure Walk where
  /-- The segments, the last one first. -/
  segments : List (List Char) := []
  /-- Whether the first segment is the letter of a drive. -/
  drive : Bool := false
  deriving DecidableEq, Repr

namespace Walk

/-- Takes the last segment back. -/
def back (w : Walk) : Walk :=
  match w.segments with
  | [] => w
  | segment :: rest => if isKeptBack segment then w else { w with segments := rest }

/-- Adds a segment. -/
def add (file : Bool) (segment : List Char) (w : Walk) : Walk :=
  match file && w.segments.isEmpty && isDrive segment, segment with
  | true, letter :: _ => ⟨[[letter, ':']], true⟩
  | _, _ => { w with segments := escape pathMarks segment :: w.segments }

/-- Takes a segment as it is written. -/
def step (file : Bool) (segment : List Char) (w : Walk) : Walk :=
  if dotted segment = ['.', '.'] then w.back
  else if dotted segment = ['.'] then w
  else w.add file segment

/-- Takes the last segment of a path. -/
def finish (file : Bool) (segment : List Char) (w : Walk) : Walk :=
  if dotted segment = ['.', '.'] then w.back.add false []
  else if dotted segment = ['.'] then w.add false []
  else w.add file segment

/-- The text of a path. -/
def text (w : Walk) : List Char := w.segments.reverse.flatMap ('/' :: ·)

end Walk

/-- **Reads a path** from behind its first slash. -/
def walk (file : Bool) (cs : List Char) : Walk :=
  let segments := Text.splitOn '/' cs
  let before := segments.dropLast.foldl (fun w segment => Walk.step file segment w) {}
  before.finish file (segments.getLast?.getD [])

end RecordRelay.Uri
