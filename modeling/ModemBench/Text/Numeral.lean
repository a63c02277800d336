/-!
Decimal numerals: an optional plus sign and one or more ASCII digits. Leading zeros count for
nothing, and a value above the limit is refused rather than wrapped.
-/

namespace ModemBench.Text

def isDigit (c : Char) : Bool :=
  '0' ≤ c && c ≤ '9'

def digit (c : Char) : Nat :=
  c.toNat - '0'.toNat

def digitsValue (cs : List Char) : Nat :=
  cs.foldl (fun n c => n * 10 + digit c) 0

/-- The value of a row of digits, of which there has to be one at least. -/
def digits? (cs : List Char) : Option Nat :=
  if cs ≠ [] ∧ cs.all isDigit then some (digitsValue cs) else none

def unsigned (cs : List Char) : List Char :=
  match cs with
  | '+' :: rest => rest
  | _ => cs

/-- A numeral of at most `limit`. -/
def numeral? (limit : Nat) (s : String) : Option Nat :=
  (digits? (unsigned s.toList)).filter (· ≤ limit)

end ModemBench.Text
