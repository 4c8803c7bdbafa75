import RecordRelay.Text.Hex
import RecordRelay.Text.Split

/-!
# IPv4 addresses

An address is a number of thirty-two bits. It can be written in one to four parts between full
stops, each decimal, octal or hexadecimal; the last part fills what the others leave. It is always
shown as four decimal numbers.
-/

namespace RecordRelay.Uri

/-- The number that digits spell in a base of at most sixteen. -/
def number? (base : Nat) (cs : List Char) : Option Nat :=
  cs.foldlM (fun n c => do
    let d ← Text.hexCharValue? c
    if d < base then some (n * base + d) else none) 0

/-- The number that a part of an address spells: hexadecimal after `0x`, octal after `0`. -/
def ipv4Part? : List Char → Option Nat
  | [] => none
  | '0' :: x :: cs => if x.toLower = 'x' then number? 16 cs else number? 8 (x :: cs)
  | cs => number? 10 cs

/-- The parts of a name, without the empty one behind a final full stop. -/
def nameParts (cs : List Char) : List (List Char) :=
  let parts := Text.splitOn '.' cs
  if parts.getLast? = some [] ∧ 1 < parts.length then parts.dropLast else parts

/-- Whether a host is **written as an IPv4 address**: its last part is a number. -/
def endsInNumber (cs : List Char) : Bool :=
  match (nameParts cs).getLast? with
  | none => false
  | some last => last ≠ [] && (last.all Char.isDigit || (ipv4Part? last).isSome)

/-- Reads an address as one number. -/
def ipv4? (cs : List Char) : Option Nat := do
  let parts ← (nameParts cs).mapM ipv4Part?
  if 4 < parts.length then none
  let last ← parts.getLast?
  let front := parts.dropLast
  if front.any (255 < ·) ∨ Nat.pow 256 (4 - front.length) ≤ last then none
  some (front.foldl (fun n p => n * 256 + p) 0 * Nat.pow 256 (4 - front.length) + last)

/-- The usual spelling of an address. -/
def ipv4Text (n : Nat) : String :=
  toString (n / 16777216) ++ "." ++ toString (n / 65536 % 256) ++ "." ++
    toString (n / 256 % 256) ++ "." ++ toString (n % 256)

end RecordRelay.Uri
