/-!
# Labels in ASCII

A label with characters beyond ASCII is registered under a spelling of its own: its ASCII characters,
a hyphen, and digits that say which other characters stand where. These are taken in rising order,
and each is written as the number of steps from the one before, a step going one place further in
the label or, at its end, one code point up. The numbers have a variable length, and how soon they
end is adapted to the numbers before.
-/

namespace RecordRelay.Hostname.Punycode

/-- The digit for a number below thirty-six: the letters come first. -/
def digitChar (d : Nat) : Char := Char.ofNat (if d < 26 then 97 + d else 22 + d)

/-- The number that a digit stands for. -/
def digitValue? (c : Char) : Option Nat :=
  if c.isLower then some (c.toNat - 97)
  else if c.isUpper then some (c.toNat - 65)
  else if c.isDigit then some (c.toNat - 22)
  else none

/-- The least digit that does not end a number, at a place that grows by thirty-six. -/
def threshold (place bias : Nat) : Nat := min 26 (max 1 (place - bias))

theorem threshold_pos (place bias : Nat) : 1 ≤ threshold place bias := by
  unfold threshold
  omega

/-- Divides until a number is small, and counts. -/
def shrink (delta count : Nat) : Nat × Nat :=
  if 455 < delta then shrink (delta / 35) (count + 36) else (delta, count)
termination_by delta
decreasing_by exact Nat.div_lt_self (by omega) (by omega)

/-- The bias after the number `delta`, which made the label `length` characters long. -/
def adapt (delta length : Nat) (first : Bool) : Nat :=
  let delta := if first then delta / 700 else delta / 2
  let (delta, count) := shrink (delta + delta / length) 0
  count + 36 * delta / (delta + 38)

/-! ## Writing -/

/-- A number in digits of growing thresholds. -/
def writeNumber (bias place n : Nat) : List Char :=
  let t := threshold place bias
  if n < t then [digitChar n]
  else digitChar (t + (n - t) % (36 - t)) :: writeNumber bias (place + 36) ((n - t) / (36 - t))
termination_by n
decreasing_by
  have := threshold_pos place bias
  calc (n - threshold place bias) / (36 - threshold place bias)
      ≤ n - threshold place bias := Nat.div_le_self _ _
    _ < n := by omega

/-- What is written so far of a label. -/
structure Writing where
  /-- The digits. -/
  written : List Char
  /-- The steps since the last character. -/
  delta : Nat
  /-- The bias. -/
  bias : Nat
  /-- How many characters of the label are written. -/
  count : Nat
  deriving DecidableEq, Repr

/-- Passes one place of the label while the code point `n` is written; `plain` characters of the
label are in ASCII. -/
def Writing.pass (n plain : Nat) (w : Writing) (c : Char) : Writing :=
  if c.toNat < n then { w with delta := w.delta + 1 }
  else if c.toNat = n then
    { written := w.written ++ writeNumber w.bias 36 w.delta
      delta := 0
      bias := adapt w.delta (w.count + 1) (w.count = plain)
      count := w.count + 1 }
  else w

/-- Writes the code points of a label that are in a rising list; `reached` is the one reached. -/
def writeFrom (label : List Char) (plain : Nat) :
    (todo : List Nat) → (reached : Nat) → Writing → List Char
  | [], _, w => w.written
  | n :: todo, reached, w =>
    let w := { w with delta := w.delta + (n - reached) * (w.count + 1) }
    let w := label.foldl (Writing.pass n plain) w
    writeFrom label plain todo (n + 1) { w with delta := w.delta + 1 }

/-- The code points beyond ASCII in a label, rising and each once. -/
def beyond (label : List Char) : List Nat :=
  ((label.map Char.toNat).filter (128 ≤ ·)).mergeSort.eraseDups

/-- The **spelling** of a label in ASCII. -/
def encode (label : List Char) : List Char :=
  let plain := label.filter (·.toNat < 128)
  plain ++ (if plain = [] then [] else ['-']) ++
    writeFrom label plain.length (beyond label) 128 ⟨[], 0, 72, plain.length⟩

/-! ## Reading -/

/-- Reads a number that is added to `n`, each of its digits weighing more than the one before. -/
def readNumber? (bias : Nat) : (cs : List Char) → (place weight n : Nat) →
    Option (Nat × List Char)
  | [], _, _, _ => none
  | c :: rest, place, weight, n => do
    let d ← digitValue? c
    let t := threshold place bias
    if d < t then return (n + d * weight, rest)
    else readNumber? bias rest (place + 36) (weight * (36 - t)) (n + d * weight)

theorem readNumber?_lt {bias : Nat} {cs : List Char} {place weight n : Nat}
    {r : Nat × List Char} (h : readNumber? bias cs place weight n = some r) :
    r.2.length < cs.length := by
  induction cs generalizing place weight n with
  | nil => simp [readNumber?] at h
  | cons c rest ih =>
    rw [readNumber?] at h
    cases hd : digitValue? c with
    | none => simp [hd] at h
    | some d =>
      simp only [hd, Option.bind_eq_bind, Option.bind_some] at h
      split at h
      · simp only [Option.pure_def, Option.some.injEq] at h
        simp [← h]
      · have := ih h
        simp only [List.length_cons]
        omega

/-- Whether a number is the code point of a character. -/
def isScalar (n : Nat) : Bool := n < 0xD800 || (0xDFFF < n && n < 0x110000)

/-- Reads the numbers and puts their characters into the label. Reading stands at the code point
`n` and before the place `i`. -/
def readFrom (bias n i : Nat) (label cs : List Char) : Option (List Char) :=
  if cs.isEmpty then some label
  else
    match h : readNumber? bias cs 36 1 i with
    | none => none
    | some (next, rest) =>
      let length := label.length + 1
      let n := n + next / length
      if isScalar n then
        have := readNumber?_lt h
        readFrom (adapt (next - i) length (i = 0)) n (next % length + 1)
          (label.insertIdx (next % length) (Char.ofNat n)) rest
      else none
termination_by cs.length

/-- The **label** that a spelling stands for. -/
def decode? (spelling : List Char) : Option (List Char) :=
  let digits := (spelling.reverse.takeWhile (· ≠ '-')).reverse
  let plain := spelling.take (spelling.length - digits.length - 1)
  if plain = [] then readFrom 72 128 0 [] spelling else readFrom 72 128 0 plain digits

end RecordRelay.Hostname.Punycode
