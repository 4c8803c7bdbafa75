import RecordRelay.Hostname.Mark

/-!
# The direction of labels

A hostname with a character that is written from right to left has to keep its shape wherever it is
shown. Each of its labels therefore has one direction: it begins with a letter of that direction,
holds only what goes along with it, and ends in a letter or number. A label from right to left
holds numbers of one kind only.
-/

namespace RecordRelay.Hostname

/-- How a character goes along with a **direction**. -/
inductive Direction where
  /-- A letter from left to right. -/
  | left
  /-- A letter from right to left. -/
  | right
  /-- A European digit. -/
  | digit
  /-- An Arabic digit. -/
  | arabicDigit
  /-- A mark, which goes along with what is before it. -/
  | mark
  /-- Anything else. -/
  | neutral
  deriving DecidableEq, Repr

/-- The directions other than from left to right and than that of marks. -/
def directionLines : List String := [
    "0-2F:N 30-39:E 3A-60:N 7B-D7:N F7:N 2B9-2BA:N 2C2-2CF:N 2D2-2ED:N 2EF-2FF:N 375:N 3F6:N",
    "58A-58F:N 5BE:R 5C0:R 5C3:R 5C6:R 5D0-5F4:R 606-607:N 608:R 609-60A:N 60B:R 60C:N 60D:R",
    "60E-60F:N 61B-64A:R 660-669:A 66A:N 66B-66C:A 66D-66F:R 671-6D5:R 6DE:N 6E5-6E6:R 6E9:N",
    "6EE-6EF:R 6F0-6F9:E 6FA-710:R 712-72F:R 74D-7A5:R 7B1-7EA:R 7F4-7F5:R 7F6-7F9:N 7FA:R",
    "7FE-815:R 81A:R 824:R 828:R 830-858:R 85E-88F:R 8A0-8C9:R 9F2-9F3:N 9FB:N AF1:N BF3-BFA:N",
    "C78-C7E:N E3F:N F3A-F3D:N 1390-1399:N 1400:N 169B-169C:N 17DB:N 17F0-180A:N 1940-1945:N",
    "19DE-19FF:N 200C-20C1:N 2104-214D:N 218A-2335:N 237B-2394:N 2396-26AB:N 26AD-27FF:N",
    "2900-2BFF:N 2CE5-2CEA:N 2CF9-2CFF:N 2E00-3004:N 3008-3020:N 3030:N 3037:N 303D-303F:N 30A0:N",
    "30FB:N 31C0-31E5:N 4DC0-4DFF:N A490-A4C6:N A60D-A60F:N A673:N A67E-A67F:N A700-A721:N A788:N",
    "A828-A82B:N A838-A839:N A874-A877:N AB6A-AB6B:N FBB2-FBC2:R FBC3-FDFF:N FE45-FE46:N FE73:R",
    "10101:N 10140-1018C:N 10190-101A0:N 102E1-102FB:E 10800-1091B:R 1091F:N 10920-10A00:R",
    "10A10-10A35:R 10A40-10AE4:R 10AEB-10B35:R 10B39-10B3F:N 10B40-10D23:R 10D30-10D39:A",
    "10D40-10D4F:R 10D6E:N 10D6F-10D8F:R 10E60-10E7E:A 10E80-10EA9:R 10EAD-10ED0:R 10ED1-10ED8:N",
    "10F00-10F45:R 10F51-10F81:R 10F86-10FF6:R 11052-11065:N 11660-1166C:N 11FD5-11FF1:N 16FE2:N",
    "1CC00-1CEF0:N 1D1E9-1D241:N 1D245:N 1D300-1D356:N 1E2FF:N 1E800-1E8CF:R 1E922-1E943:R",
    "1E94B-1ED3D:R 1EEF0-1F12F:N 1F16D-1F16F:N 1F1AD:N 1F260-1FBFA:N"]

/-- The directions. -/
def directions : List Row := rowsOf directionLines

/-- The nonspacing marks that count as letters from left to right. -/
def leftMarks : List Nat := [0xCBF, 0xCC6, 0x11A07, 0x11A08, 0x11C3F]

/-- The direction of a character. -/
def direction (c : Char) : Direction :=
  match said? directions c with
  | some ['R'] => .right
  | some ['E'] => .digit
  | some ['A'] => .arabicDigit
  | some _ => .neutral
  | none => if isNonspacing c ∧ c.toNat ∉ leftMarks then .mark else .left

/-- Whether a character makes its hostname one with directions. -/
def goesLeft (c : Char) : Bool := direction c == .right || direction c == .arabicDigit

/-- The last direction, marks aside. -/
def lastDirection? (ds : List Direction) : Option Direction := (ds.filter (· ≠ .mark)).getLast?

/-- Whether a label **has one direction**. -/
def hasDirection (label : List Char) : Bool :=
  let ds := label.map direction
  match ds with
  | [] => true
  | .right :: _ =>
    !ds.contains .left && !(ds.contains .digit && ds.contains .arabicDigit) &&
      (lastDirection? ds).any fun d => d == .right || d == .digit || d == .arabicDigit
  | .left :: _ =>
    !ds.contains .right && !ds.contains .arabicDigit &&
      (lastDirection? ds).any fun d => d == .left || d == .digit
  | _ => false

end RecordRelay.Hostname
