import RecordRelay.Http.Uri.Ipv4

/-!
# IPv6 addresses

An address is eight groups of sixteen bits, in hexadecimal between colons. Two colons in a row stand
once for as many zeros as are missing, and an IPv4 address at the end for the last two groups. It
is shown with two colons for the **first of its longest runs of zeros**, unless that is a single
zero.
-/

namespace RecordRelay.Uri

/-- The number that a group spells. -/
def group? (cs : List Char) : Option Nat :=
  if cs ≠ [] ∧ cs.length ≤ 4 then number? 16 cs else none

/-- The number that a part of an IPv4 address spells here: decimal, without leading zeros. -/
def plainPart? (cs : List Char) : Option Nat :=
  if cs ≠ [] ∧ (cs.length = 1 ∨ cs.head? ≠ some '0') then
    (number? 10 cs).filter (· ≤ 255)
  else none

/-- The two groups of an IPv4 address. -/
def ipv4Groups? (cs : List Char) : Option (List Nat) := do
  match ← (Text.splitOn '.' cs).mapM plainPart? with
  | [a, b, c, d] => some [a * 256 + b, c * 256 + d]
  | _ => none

/-- The groups that a sequence between colons spells. -/
def groups? : List (List Char) → Option (List Nat)
  | [] => some []
  | [last] => if last.contains '.' then ipv4Groups? last else (group? last).map ([·])
  | next :: rest => do return (← group? next) :: (← groups? rest)

/-- Splits at the first two colons in a row. -/
def splitDouble : List Char → Option (List Char × List Char)
  | ':' :: ':' :: rest => some ([], rest)
  | c :: rest => (splitDouble rest).map fun (a, b) => (c :: a, b)
  | [] => none

/-- The groups on one side of two colons. -/
def side? (cs : List Char) : Option (List Nat) :=
  if cs = [] then some [] else groups? (Text.splitOn ':' cs)

/-- Reads an address as its **eight groups**. -/
def ipv6? (cs : List Char) : Option (List Nat) := do
  match splitDouble cs with
  | none =>
    let groups ← groups? (Text.splitOn ':' cs)
    if groups.length = 8 then some groups else none
  | some (front, back) =>
    let before ← if front.contains '.' then none else side? front
    let after ← side? back
    if before.length + after.length ≤ 7 then
      some (before ++ List.replicate (8 - before.length - after.length) 0 ++ after)
    else none

/-- The first of the longest runs of zeros: its place and its length. -/
def longestZeros (groups : List Nat) : Nat × Nat :=
  (List.range groups.length).foldl (fun best place =>
    let length := ((groups.drop place).takeWhile (· = 0)).length
    if best.2 < length then (place, length) else best) (0, 0)

/-- Groups between colons. -/
def groupsText (groups : List Nat) : String := ":".intercalate (groups.map Text.hexDigits)

/-- The usual spelling of an address. -/
def ipv6Text (groups : List Nat) : String :=
  let (place, length) := longestZeros groups
  if length < 2 then groupsText groups
  else groupsText (groups.take place) ++ "::" ++ groupsText (groups.drop (place + length))

end RecordRelay.Uri
