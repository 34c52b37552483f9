set_option autoImplicit false

/-! # Hexadecimal digits -/

namespace LogEgress.Text

/-- The value of a hexadecimal digit of either case. -/
def hexDigit? (c : Char) : Option Nat :=
  if c.isDigit then some (c.toNat - 48)
  else if 'a' ≤ c ∧ c ≤ 'f' then some (c.toNat - 87)
  else if 'A' ≤ c ∧ c ≤ 'F' then some (c.toNat - 55)
  else none

/-- The lower-case digit of a number below 16. -/
def hexLower (n : Nat) : Char := if n < 10 then Char.ofNat (48 + n) else Char.ofNat (87 + n)

/-- The upper-case digit of a number below 16. -/
def hexUpper (n : Nat) : Char := if n < 10 then Char.ofNat (48 + n) else Char.ofNat (55 + n)

theorem hexDigit?_hexLower {n : Nat} (h : n < 16) : hexDigit? (hexLower n) = some n := by
  revert n; decide

theorem hexDigit?_hexUpper {n : Nat} (h : n < 16) : hexDigit? (hexUpper n) = some n := by
  revert n; decide

end LogEgress.Text
