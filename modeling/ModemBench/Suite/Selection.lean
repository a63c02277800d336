import ModemBench.Suite.Family
/-!
Selections: a family and either one of its cases or its whole sequence. Only pairs that are in
the tables become a selection.
-/

namespace ModemBench

inductive UsageError where
  | unknownFamily (index : Nat)
  | unknownCase (family : Family) (index : Nat)
  | caseRequired (family : Family)
deriving Repr, DecidableEq

def UsageError.message : UsageError → String
  | unknownFamily n => s!"unknown test family {n} (expected 0..=2)"
  | unknownCase f n => s!"unknown case {n} for {f.display} (expected 0..={f.cases.length - 1})"
  | caseRequired f => s!"{f.display} requires a test case"

inductive Selection where
  | one (family : Family) (index : Nat) (valid : index < family.cases.length)
  | every (family : Family) (templates : List Template) (valid : family.sequence? = some templates)

namespace Selection

/-- The selection of a family's number and a case's number. -/
def ofIndices (family : Nat) (case? : Option Nat) : Except UsageError Selection :=
  match Family.ofIndex? family with
  | none => .error (.unknownFamily family)
  | some f =>
    match case? with
    | some n => if h : n < f.cases.length then .ok (.one f n h) else .error (.unknownCase f n)
    | none =>
      match h : f.sequence? with
      | some templates => .ok (.every f templates h)
      | none => .error (.caseRequired f)

def family : Selection → Family
  | one f .. => f
  | every f .. => f

def case? : Selection → Option Nat
  | one _ n _ => some n
  | every .. => none

def label : Selection → String
  | one f n _ => f.cases[n].name
  | every .. => "all"

def templates : Selection → List Template
  | one f n _ => [f.cases[n].template]
  | every _ ts _ => ts

def commands (s : Selection) (p : Parameters) : List Command :=
  s.templates.map (·.render p)

end Selection

/-- The commands of a family's number and a case's number. -/
def resolve (family : Nat) (case? : Option Nat) (p : Parameters) :
    Except UsageError (List Command) :=
  (Selection.ofIndices family case?).map (·.commands p)

end ModemBench
