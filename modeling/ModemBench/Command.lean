/-!
AT commands: a name and parameters on one line, without the end of the line.
-/

namespace ModemBench

structure Command where
  line : String
deriving Repr, DecidableEq, Inhabited

namespace Command

/-- The parts before and after the first `=`, if there is one. -/
def halves (cs : List Char) : List Char × Option (List Char) :=
  match cs.dropWhile (· != '=') with
  | [] => (cs, none)
  | _ :: rest => (cs.takeWhile (· != '='), some rest)

/-- The parts between commas; a text without a comma is one part. -/
def parts : List Char → List (List Char)
  | [] => [[]]
  | c :: rest =>
    if c = ',' then [] :: parts rest
    else match parts rest with
      | first :: others => (c :: first) :: others
      | [] => [[c]]

def body (cs : List Char) : List Char :=
  match cs with
  | 'A' :: 'T' :: '+' :: rest => rest
  | _ => cs

/-- What stands between `AT+` and the first `=`. -/
def name (c : Command) : String :=
  String.ofList (halves (body c.line.toList)).1

/-- What stands after the first `=` of the line, cut at its commas. -/
def params (c : Command) : List String :=
  match (halves c.line.toList).2 with
  | none => []
  | some rest => (parts rest).map String.ofList

end Command

end ModemBench
