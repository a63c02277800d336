import ModemBench.Suite.Family
/-!
The table of families and cases that is shown to a user.
-/

namespace ModemBench.Suite

def padLeft (width : Nat) (s : String) : String :=
  String.ofList (List.replicate (width - s.length) ' ') ++ s

def padRight (width : Nat) (s : String) : String :=
  s ++ String.ofList (List.replicate (width - s.length) ' ')

def caseLine (entry : Case × Nat) : String :=
  let (c, n) := entry
  s!"    {padLeft 2 (toString n)}: {padRight 18 c.name} AT+{c.template.name}\n"

def familyLines (f : Family) : String :=
  let hint := if f.sequence?.isSome then "omit CASE to run the full sequence" else "CASE required"
  s!"\n  {f.display}  ({hint})\n" ++ String.join (f.cases.zipIdx.map caseLine)

def catalogue : String :=
  "Test families and cases:\n" ++ String.join (Family.all.map familyLines)

end ModemBench.Suite
