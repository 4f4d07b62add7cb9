/-!
# Herald.Text.Hex

Numbers in base sixteen.

* `hexDigit`, `upperHexDigit`: the digit of a number below sixteen, and its capital form.
* `hexValue?`: the number that a digit of either case stands for.
-/

namespace Herald.Text

/-- The digit of `n`, for `n` below sixteen. -/
def hexDigit (n : Nat) : Char := Nat.digitChar n

/-- The capital digit of `n`, for `n` below sixteen. -/
def upperHexDigit (n : Nat) : Char := (Nat.digitChar n).toUpper

def hexValue? (c : Char) : Option Nat :=
  if c.isDigit then some (c.toNat - '0'.toNat)
  else if 'a' ≤ c ∧ c ≤ 'f' then some (c.toNat - 'a'.toNat + 10)
  else if 'A' ≤ c ∧ c ≤ 'F' then some (c.toNat - 'A'.toNat + 10)
  else none

theorem hexValue?_upperHexDigit : ∀ n < 16, hexValue? (upperHexDigit n) = some n := by decide

theorem hexValue?_hexDigit : ∀ n < 16, hexValue? (hexDigit n) = some n := by decide

end Herald.Text
