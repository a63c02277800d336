import ModemBench.Bench.Shell.Sum
/-!
Numbers as formats print them: whole ones in several bases, and fractions.
-/

namespace ModemBench.Format

/-- What a format says about a value besides its kind. -/
structure Layout where
  flags : List Char := []
  width : Nat := 0
  precision : Option Nat := none

namespace Layout

def has (l : Layout) (flag : Char) : Bool := l.flags.contains flag

/-- A text in its width, to the right unless it is to stand to the left. -/
def padded (l : Layout) (cs : List Char) : List Char :=
  let gap := List.replicate (l.width - cs.length) ' '
  if l.has '-' then cs ++ gap else gap ++ cs

/-- Digits behind a sign, in their width. Zeros fill it if that is asked for. -/
def signed (l : Layout) (zeros : Bool) (sign digits : List Char) : List Char :=
  if zeros ∧ l.has '0' ∧ !l.has '-' then
    sign ++ List.replicate (l.width - sign.length - digits.length) '0' ++ digits
  else l.padded (sign ++ digits)

end Layout

def power (base n : Nat) : Nat := (List.replicate n base).foldl (· * ·) 1

def inBase (base n : Nat) : List Char := Nat.toDigits base n

/-- A whole number without its sign, in at least so many digits as the precision says. -/
def wholeDigits (l : Layout) (base n : Nat) : List Char :=
  let digits := if n = 0 ∧ l.precision = some 0 then [] else inBase base n
  List.replicate (l.precision.getD 1 - digits.length) '0' ++ digits

def positiveSign (l : Layout) : List Char :=
  if l.has '+' then ['+'] else if l.has ' ' then [' '] else []

def decimal (l : Layout) (n : Int) : List Char :=
  let sign := if n < 0 then ['-'] else positiveSign l
  l.signed l.precision.isNone sign (wholeDigits l 10 n.natAbs)

/-- A number without a sign, in a base that is shown if that is asked for. -/
def plain (l : Layout) (kind : Char) (n : Nat) : List Char :=
  if kind = 'o' then
    let digits := wholeDigits l 8 n
    let digits := if l.has '#' ∧ digits.head? ≠ some '0' then '0' :: digits else digits
    l.signed l.precision.isNone [] digits
  else if kind = 'u' then l.signed l.precision.isNone [] (wholeDigits l 10 n)
  else
    let sign := if l.has '#' ∧ n ≠ 0 then ['0', 'x'] else []
    let cs := l.signed l.precision.isNone sign (wholeDigits l 16 n)
    if kind = 'X' then cs.map Char.toUpper else cs

/-- The quotient to the nearest, of two the even one. -/
def nearest (numerator denominator : Nat) : Nat :=
  let q := numerator / denominator
  let r := numerator % denominator
  if denominator < 2 * r ∨ (2 * r = denominator ∧ q % 2 = 1) then q + 1 else q

/-- A positive number of arbitrary precision. -/
structure Ratio where
  numerator : Nat
  denominator : Nat

/-- The number that a finite float is, without its sign. -/
def Ratio.ofFloat (x : Float) : Ratio :=
  let bits := x.toBits.toNat
  let exponent := (bits >>> 52) % 2048
  let fraction := bits % (1 <<< 52)
  let m := if exponent = 0 then fraction else fraction + (1 <<< 52)
  let e := max exponent 1
  if 1075 ≤ e then ⟨m <<< (e - 1075), 1⟩ else ⟨m, 1 <<< (1075 - e)⟩

/-- Rounded to so many decimal places. -/
def Ratio.fixed (x : Ratio) (places : Nat) (point : Bool) : List Char :=
  let n := nearest (x.numerator * power 10 places) x.denominator
  let digits := inBase 10 n
  let digits := List.replicate (places + 1 - digits.length) '0' ++ digits
  let whole := digits.take (digits.length - places)
  if places = 0 ∧ !point then whole else whole ++ '.' :: digits.drop whole.length

/-- The power of ten that a number begins with. -/
def Ratio.exponent (x : Ratio) : Int :=
  if x.numerator = 0 then 0
  else
    let whole := x.numerator / x.denominator
    if whole ≠ 0 then (inBase 10 whole).length - 1
    else
      let inverse := (x.denominator + x.numerator - 1) / x.numerator
      Int.negOfNat (inBase 10 (inverse - 1)).length

/-- A number times a power of ten. -/
def Ratio.scaled (x : Ratio) (e : Int) : Ratio :=
  if 0 ≤ e then ⟨x.numerator * power 10 e.natAbs, x.denominator⟩
  else ⟨x.numerator, x.denominator * power 10 e.natAbs⟩

/-- One digit, so many places, and the power of ten that goes with them. -/
def Ratio.scientific (x : Ratio) (places : Nat) : Nat × Int :=
  let e := x.exponent
  let scaled := x.scaled (places - e)
  let n := nearest scaled.numerator scaled.denominator
  if power 10 (places + 1) ≤ n then (n / 10, e + 1) else (n, e)

def exponentText (e : Int) : List Char :=
  let digits := inBase 10 e.natAbs
  ['e', if e < 0 then '-' else '+'] ++ List.replicate (2 - digits.length) '0' ++ digits

def Ratio.withExponent (x : Ratio) (places : Nat) (point : Bool) : List Char :=
  let (n, e) := x.scientific places
  let digits := inBase 10 n
  let digits := digits ++ List.replicate (places + 1 - digits.length) '0'
  let mantissa := digits.take 1 ++ (if places = 0 ∧ !point then [] else '.' :: digits.drop 1)
  mantissa ++ exponentText e

def withoutZeros (cs : List Char) : List Char :=
  if cs.contains '.' then
    let left := cs.reverse.dropWhile (· == '0')
    (if left.head? = some '.' then left.tail else left).reverse
  else cs

/-- The shorter of both ways to write a number. -/
def Ratio.general (x : Ratio) (precision : Nat) (point : Bool) : List Char :=
  let precision := max precision 1
  let (_, e) := x.scientific (precision - 1)
  let trim (cs : List Char) := if point then cs else withoutZeros cs
  if -4 ≤ e ∧ e < precision then trim (x.fixed (precision - 1 - e).toNat point)
  else
    let cs := x.withExponent (precision - 1) point
    let mantissa := cs.takeWhile (· != 'e')
    trim mantissa ++ cs.drop mantissa.length

/-- A fraction in one of the ways to write it. -/
def fraction (l : Layout) (kind : Char) (x : Float) : List Char :=
  let sign := if x.toBits.toNat >>> 63 = 1 then ['-'] else positiveSign l
  if x.isNaN then l.padded "nan".toList
  else if x.isInf then l.padded (sign ++ "inf".toList)
  else
    let places := l.precision.getD 6
    let r := Ratio.ofFloat x
    let lower := kind.toLower
    let digits :=
      if lower = 'f' then r.fixed places (l.has '#')
      else if lower = 'e' then r.withExponent places (l.has '#')
      else r.general places (l.has '#')
    let cs := l.signed true sign digits
    if kind.isUpper then cs.map Char.toUpper else cs

end ModemBench.Format
