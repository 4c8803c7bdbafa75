/-!
# Similar words

A word that is not known is often a slip of one that is. How alike two words are is measured by
the **Jaro similarity**: characters of the two match when they are equal and stand no farther
apart than half the longer word, and the measure is the mean of the part of the first word that
matches, the part of the second, and the part of the matches that come in the same order.
-/

namespace RecordRelay.Text

/-- The position of the first character of `b` from `low` up to below `high` that equals `c` and
is not taken. -/
def partner? (b : List Char) (taken : List Nat) (c : Char) (low high : Nat) : Option Nat :=
  (List.range (min high b.length)).find? fun j =>
    low ≤ j && b[j]? == some c && !taken.contains j

/-- The matches of two words, as pairs of positions in the order of the first word. -/
def matchesFrom (b : List Char) (reach : Nat) (i : Nat) (taken : List Nat) :
    List Char → List (Nat × Nat)
  | [] => []
  | c :: rest =>
    match partner? b taken c (i - reach) (i + reach + 1) with
    | some j => (i, j) :: matchesFrom b reach (i + 1) (j :: taken) rest
    | none => matchesFrom b reach (i + 1) taken rest

/-- The matches of two words. -/
def wordMatches (a b : List Char) : List (Nat × Nat) :=
  matchesFrom b (max a.length b.length / 2 - 1) 0 [] a

/-- The number of matches whose characters differ once both words' matches are put in order. -/
def outOfOrder (a b : List Char) (pairs : List (Nat × Nat)) : Nat :=
  let second := (pairs.map (·.2)).mergeSort (· ≤ ·)
  ((pairs.map (·.1)).zip second).countP fun (i, j) => a[i]? != b[j]?

/-- The **similarity** of two words: one for equal words, zero for words without a match. -/
def similarity (a b : String) : Float :=
  let a := a.toList
  let b := b.toList
  if a = [] ∧ b = [] then 1.0
  else
    let pairs := wordMatches a b
    let n := pairs.length
    if n = 0 then 0.0
    else
      let ordered := n - outOfOrder a b pairs / 2
      (n.toFloat / a.length.toFloat + n.toFloat / b.length.toFloat + ordered.toFloat / n.toFloat)
        / 3.0

/-- How alike two words have to be. -/
def similarEnough : Float := 0.7

/-- Puts a word behind those that are less alike. -/
def insertByScore (word : Float × String) : List (Float × String) → List (Float × String)
  | [] => [word]
  | other :: rest =>
    if other.1 ≤ word.1 then other :: insertByScore word rest else word :: other :: rest

/-- The known words that a word is **similar** to, the most similar one last. -/
def similarTo (known : List String) (word : String) : List String :=
  let scored := (known.map fun k => (similarity word k, k)).filter (similarEnough < ·.1)
  (scored.foldl (fun sorted s => insertByScore s sorted) []).map (·.2)

end RecordRelay.Text
