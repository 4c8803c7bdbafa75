import RecordRelay.Bytes

/-!
# Hexadecimal

A number is written with as few digits as it has. Each of several octets is written as two
lower-case digits; reading takes digits of either case and refuses a text of odd length.
-/

namespace RecordRelay.Text

/-- The lower-case digits of a number, without leading zeros. -/
def hexDigits (n : Nat) : String := String.ofList (Nat.toDigits 16 n)

/-- The digit for a number below sixteen. -/
def hexChar (n : Nat) : Char := if n < 10 then Char.ofNat (48 + n) else Char.ofNat (87 + n)

/-- The digits of octets. -/
def hexChars (bytes : Bytes) : List Char :=
  bytes.flatMap fun b => [hexChar (b.toNat / 16), hexChar (b.toNat % 16)]

/-- Octets **in hexadecimal**. -/
def hex (bytes : Bytes) : String := String.ofList (hexChars bytes)

/-- The number that a digit stands for. -/
def hexCharValue? (c : Char) : Option Nat :=
  if c.isDigit then some (c.toNat - 48)
  else if 'a' ≤ c.toLower ∧ c.toLower ≤ 'f' then some (c.toLower.toNat - 87)
  else none

/-- Reads pairs of digits. -/
def unhexChars? : List Char → Option Bytes
  | [] => some []
  | [_] => none
  | a :: b :: rest => do
    let octet := (← hexCharValue? a) * 16 + (← hexCharValue? b)
    return octet.toUInt8 :: (← unhexChars? rest)

/-- The octets that a text spells in hexadecimal, if it spells any. -/
def unhex? (s : String) : Option Bytes := unhexChars? s.toList

theorem hexCharValue?_hexChar {n : Nat} (h : n < 16) : hexCharValue? (hexChar n) = some n := by
  have : ∀ m : Fin 16, hexCharValue? (hexChar m) = some m.val := by decide
  exact this ⟨n, h⟩

theorem unhexChars?_hexChars (bytes : Bytes) : unhexChars? (hexChars bytes) = some bytes := by
  induction bytes with
  | nil => rfl
  | cons b bytes ih =>
    have hb : b.toNat < 256 := b.toNat_lt
    have back : b.toNat / 16 * 16 + b.toNat % 16 = b.toNat := by omega
    have h1 := hexCharValue?_hexChar (n := b.toNat / 16) (by omega)
    have h2 := hexCharValue?_hexChar (n := b.toNat % 16) (by omega)
    have step : hexChars (b :: bytes) =
        hexChar (b.toNat / 16) :: hexChar (b.toNat % 16) :: hexChars bytes := rfl
    rw [step, unhexChars?, h1, h2, ih]
    show some (UInt8.ofNat (b.toNat / 16 * 16 + b.toNat % 16) :: bytes) = some (b :: bytes)
    rw [back, UInt8.ofNat_toNat]

/-- **Reading undoes writing.** -/
theorem unhex?_hex (bytes : Bytes) : unhex? (hex bytes) = some bytes := by
  simp [unhex?, hex, unhexChars?_hexChars]

end RecordRelay.Text
