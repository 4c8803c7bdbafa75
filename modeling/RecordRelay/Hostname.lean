import RecordRelay.Hostname.Composed
import RecordRelay.Hostname.Direction
import RecordRelay.Hostname.Joining
import RecordRelay.Hostname.Mapping
import RecordRelay.Hostname.Punycode

/-!
# Hostnames

A hostname is typed in any script and registered in ASCII. On the way its characters are mapped and
composed, its labels are looked at one by one, and a label that is not in ASCII is spelled in it,
with a mark in front.

A label may also come spelled. It has to be the spelling of a label that would be spelled: one with
characters beyond ASCII, none of which is mapped to others or could be composed.
-/

namespace RecordRelay.Hostname

/-- The characters of ASCII that **no hostname has**. -/
def isForbidden (c : Char) : Bool :=
  c.toNat ≤ 0x20 || c.toNat == 0x7F || "%#/:<>?@[\\]^|".toList.contains c

/-- Whether a character is in ASCII. -/
def isAscii (c : Char) : Bool := c.toNat < 0x80

/-- The mark in front of a label that is spelled. -/
def spellingMark : List Char := "xn--".toList

/-- The number of characters that a label to be spelled may have. -/
def maxLabel : Nat := 1000

/-- The number of characters that the spelling of a label may have. -/
def maxSpelling : Nat := 2000

/-- The label that a spelling stands for. -/
def unspelled? (spelling : List Char) : Option (List Char) :=
  if maxSpelling < spelling.length then none
  else
    match Punycode.decode? spelling with
    | none => none
    | some label =>
      if label.all isAscii || !label.all isKept || composed label ≠ label ||
          spellingMark.isPrefixOf label then none
      else some label

/-- A label as it is read: a spelled one is undone. -/
def unspell? (label : List Char) : Option (List Char) :=
  if spellingMark.isPrefixOf label then unspelled? (label.drop spellingMark.length)
  else some label

/-- A label as it is registered. -/
def spell? (label : List Char) : Option (List Char) :=
  if label.all isAscii then some label
  else if maxLabel < label.length then none
  else some (spellingMark ++ Punycode.encode label)

/-- Whether a label is well formed by itself. -/
def isLabel (label : List Char) : Bool :=
  !label.any isForbidden && !label.head?.any isMark && joinersPlaced [] label

/-- The labels of a hostname as they are read, if they are well formed. -/
def labels? (cs : List Char) : Option (List (List Char)) := do
  let typed ← mapAll? cs
  let labels ← (Text.splitOn '.' (composed typed)).mapM unspell?
  if labels.all isLabel && (!labels.any (·.any goesLeft) || labels.all hasDirection) then
    some labels
  else none

/-- The hostname **as it is registered**, in ASCII. -/
def registered? (cs : List Char) : Option (List Char) := do
  let labels ← (← labels? cs).mapM spell?
  return ['.'].intercalate labels

end RecordRelay.Hostname
