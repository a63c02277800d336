/-!
Rights of files: nine bits, to read, to write and to start a file, for its owner, its group and all
others. They are given in octal digits or as changes by letters.
-/

namespace ModemBench.Rights

def inverse (mode : Nat) : Nat := 0o777 - mode % 0o1000

/-- A number in octal digits. -/
def octal? (word : String) : Option Nat :=
  let cs := word.toList
  if !cs.isEmpty ∧ cs.all fun c => '0' ≤ c && c ≤ '7' then
    some (cs.foldl (fun n c => n * 8 + (c.toNat - '0'.toNat)) 0)
  else none

/-- The bits that letters stand for in one of three groups. -/
def bits (cs : List Char) : Nat :=
  cs.foldl (fun bits c =>
    bits ||| (if c = 'r' then 4 else if c = 'w' then 2 else if c = 'x' ∨ c = 'X' then 1 else 0)) 0

/-- The rights that letters stand for, which may be those of one of the groups. -/
def meant? (mode : Nat) (letters : List Char) : Option Nat :=
  match letters with
  | ['u'] => some (mode / 64 % 8)
  | ['g'] => some (mode / 8 % 8)
  | ['o'] => some (mode % 8)
  | _ => if letters.all "rwxXst".toList.contains then some (bits letters) else none

/-- One change by letters: for whom, whether rights are added, removed or set, and which. Where no
one is named it is for all, but not for rights in the mask. -/
def changedOnce? (mask mode : Nat) (change : List Char) : Option Nat :=
  let who := change.takeWhile "ugoa".toList.contains
  match change.drop who.length with
  | sign :: letters =>
    if !"+-=".toList.contains sign then none
    else (meant? mode letters).map fun found =>
      let group (c : Char) : Nat := if who.contains c ∨ who.contains 'a' then 7 else 0
      let whole := if who.isEmpty then inverse mask
        else group 'u' * 64 + group 'g' * 8 + group 'o'
      let given := (found * 73) &&& whole
      if sign = '+' then mode ||| given
      else if sign = '-' then mode &&& inverse given
      else (mode &&& inverse whole) ||| given
  | [] => none

/-- Rights after changes with commas between them. -/
def changed? (mask mode : Nat) (changes : String) : Option Nat :=
  (changes.splitOn ",").foldlM (fun mode change => changedOnce? mask mode change.toList) mode

/-- The rights that are asked for, given in either way. -/
def asked? (mask mode : Nat) (word : String) : Option Nat :=
  match octal? word with
  | some n => some (n &&& 0o777)
  | none => changed? mask mode word

end ModemBench.Rights
