/-!
# Hexadecimal digits

One digit at a time, in both directions.
-/

namespace DebugConsole.Text

/-- The value of a hexadecimal digit of either case. -/
def hexValue? (c : Char) : Option Nat :=
  if '0' ≤ c ∧ c ≤ '9' then some (c.toNat - '0'.toNat)
  else if 'a' ≤ c ∧ c ≤ 'f' then some (c.toNat - 'a'.toNat + 10)
  else if 'A' ≤ c ∧ c ≤ 'F' then some (c.toNat - 'A'.toNat + 10)
  else none

/-- The upper case digit of a value below sixteen. -/
def hexUpper (n : Nat) : Char := if n < 10 then Char.ofNat (48 + n) else Char.ofNat (55 + n)

/-- The lower case digit of a value below sixteen. -/
def hexLower (n : Nat) : Char := if n < 10 then Char.ofNat (48 + n) else Char.ofNat (87 + n)

theorem hexValue?_hexUpper {n : Nat} (h : n < 16) : hexValue? (hexUpper n) = some n := by
  have : ∀ m : Fin 16, hexValue? (hexUpper m) = some m.val := by decide
  exact this ⟨n, h⟩

theorem hexValue?_hexLower {n : Nat} (h : n < 16) : hexValue? (hexLower n) = some n := by
  have : ∀ m : Fin 16, hexValue? (hexLower m) = some m.val := by decide
  exact this ⟨n, h⟩

/-- The number of the digits `n` followed by those of a text. -/
def hexNumber? (n : Nat) : List Char → Option Nat
  | []      => some n
  | c :: cs => (hexValue? c).bind fun d => hexNumber? (16 * n + d) cs

/-- The lower case digits of a number without leading zeros, after the digits in `tail`. -/
def hexDigits (n : Nat) (tail : List Char) : List Char :=
  if n < 16 then hexLower n :: tail else hexDigits (n / 16) (hexLower (n % 16) :: tail)
termination_by n

def toHex (n : Nat) : List Char := hexDigits n []

end DebugConsole.Text
