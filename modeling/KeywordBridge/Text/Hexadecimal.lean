import KeywordBridge.Text.Basic

/-!
# Hexadecimal digits

Octets and code points that cannot be shown as they are are written by their
hexadecimal digits. Writing takes lower-case letters, reading takes both.
-/

namespace KeywordBridge

namespace Text

/-- The lower-case hexadecimal digit of a value below sixteen. -/
def hexDigit (value : Nat) : Char :=
  if value < 10 then Char.ofNat (48 + value) else Char.ofNat (87 + value)

/-- The last `width` hexadecimal digits of a number. -/
def hexDigits (width value : Nat) : Text :=
  match width with
  | 0 => []
  | width + 1 => hexDigits width (value / 16) ++ [hexDigit (value % 16)]

/-- The number of digits is the width that was asked for. -/
theorem length_hexDigits (width value : Nat) : (hexDigits width value).length = width := by
  induction width generalizing value with
  | zero => rfl
  | succ width ih => simp [hexDigits, ih]

/-- The value of a hexadecimal digit. -/
def hexValue? (c : Char) : Option Nat :=
  if '0' ≤ c && c ≤ '9' then some (c.toNat - 48)
  else if 'a' ≤ c && c ≤ 'f' then some (c.toNat - 87)
  else if 'A' ≤ c && c ≤ 'F' then some (c.toNat - 55)
  else none

/-- A digit is read as the value that it was written for. -/
theorem hexValue?_hexDigit (value : Fin 16) : hexValue? (hexDigit value) = some value := by
  revert value
  decide

end Text

end KeywordBridge
