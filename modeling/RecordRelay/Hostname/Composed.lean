import RecordRelay.Hostname.Composite
import RecordRelay.Hostname.Mark

/-!
# Composed form

The same text can be written with composites or with their parts, and with marks in several orders.
Its **composed form** is the one that is compared: all composites are taken apart, marks are put in
the order of their combining classes, and what belongs together is composed again.
-/

namespace RecordRelay.Hostname

/-- The parts of a character, taken apart at most `depth` times. -/
def apart : (depth : Nat) → Char → List Char
  | 0, c => [c]
  | depth + 1, c =>
    match parts? c with
    | none => [c]
    | some (a, b) => apart depth a ++ apart depth b

/-- How often a composite can be taken apart. -/
def maxDepth : Nat := 4

/-- Puts a character behind others, of which the last comes first. A mark goes before the marks of
greater classes. -/
def placeMark (c : Char) : (reversed : List Char) → List Char
  | [] => [c]
  | d :: rest =>
    if combiningClass c ≠ 0 ∧ combiningClass c < combiningClass d then d :: placeMark c rest
    else c :: d :: rest

/-- A text with its marks in order. -/
def ordered (cs : List Char) : List Char := (cs.foldl (fun done c => placeMark c done) []).reverse

/-- A text while it is composed, each list with its last character first. -/
structure Composing where
  /-- What is finished. -/
  done : List Char
  /-- The last character that marks can join. -/
  starter : Option Char
  /-- The marks behind it that have not joined it. -/
  marks : List Char
  deriving DecidableEq, Repr

namespace Composing

/-- All characters, the last one first. -/
def all (s : Composing) : List Char := s.marks ++ s.starter.toList ++ s.done

/-- Whether nothing stands between the starter and a character of a combining class. -/
def reaches (s : Composing) (rank : Nat) : Bool :=
  match s.marks with
  | [] => true
  | mark :: _ => combiningClass mark < rank

/-- Takes one more character, which joins the starter if it can. -/
def step (s : Composing) (c : Char) : Composing :=
  let rank := combiningClass c
  let joined := if s.reaches rank then s.starter.bind (composite? · c) else none
  match joined with
  | some whole => { s with starter := some whole }
  | none =>
    if rank = 0 then ⟨s.all, some c, []⟩
    else { s with marks := c :: s.marks }

end Composing

/-- The **composed form** of a text. -/
def composed (cs : List Char) : List Char :=
  ((ordered (cs.flatMap (apart maxDepth))).foldl Composing.step ⟨[], none, []⟩).all.reverse

end RecordRelay.Hostname
