/-!
Hexadecimal digits, and characters written by their code point.
-/

namespace ModemBench.Text

def hexDigit? (c : Char) : Option Nat :=
  if '0' ≤ c ∧ c ≤ '9' then some (c.toNat - '0'.toNat)
  else if 'a' ≤ c ∧ c ≤ 'f' then some (c.toNat - 'a'.toNat + 10)
  else if 'A' ≤ c ∧ c ≤ 'F' then some (c.toNat - 'A'.toNat + 10)
  else none

/-- The character with this code point, written in hexadecimal digits. -/
def character? (digits : List Nat) : Option Char :=
  let value := digits.foldl (fun v d => v * 16 + d) 0
  if value.isValidChar then some (Char.ofNat value) else none

/-- The character whose code point is written in the next `n` hexadecimal digits. -/
def codePoint? (n : Nat) (cs : List Char) : Option Char := do
  let digits ← (cs.take n).mapM hexDigit?
  if digits.length = n then character? digits else none

end ModemBench.Text
